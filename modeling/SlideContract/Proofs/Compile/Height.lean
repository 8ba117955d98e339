import SlideContract.Proofs.Compile.Built

/-!
# How high compiled trees are

Each step down takes one of the levels that remain below the ceiling. An array or an object puts one
level on what it gives, whether the array is written as a constructor or behind a chain; a reference
puts on none. So no tree is higher than the levels allow, whatever is nested in what.

* `TypeTree.height`: how high a tree is;
* `height_of_built`: what one level of compilation adds;
* `height_of_expression`: the height of the tree of an expression at a depth.
-/

namespace SlideContract

namespace TypeTree

mutual

/-- The number of trees that stand one inside the other, from the tree itself to a leaf. An array
whose items are not stated is one of leaves. -/
def height : TypeTree → ℕ
  | .object properties _ => propertiesHeight properties + 1
  | .array (some items) _ => items.height + 1
  | .array none _ => 2
  | .string _ | .number _ | .boolean | .enum _ | .unknown => 1

/-- The height of the highest property, zero if there is none. -/
def propertiesHeight : List (String × TypeTree) → ℕ
  | [] => 0
  | (_, tree) :: rest => max tree.height (propertiesHeight rest)

end

/-- Properties are as high as the highest of them. -/
lemma propertiesHeight_le_iff {properties : List (String × TypeTree)} {n : ℕ} :
    propertiesHeight properties ≤ n ↔ ∀ property ∈ properties, property.2.height ≤ n := by
  induction properties with
  | nil => simp [propertiesHeight]
  | cons property rest ih => rw [propertiesHeight, Nat.max_le, ih, List.forall_mem_cons]

end TypeTree

namespace Compile
open TypeTree

variable {ctx : Context} {visiting : List String} {text : List Char} {tree : TypeTree}
  {calls : List Call} {n : ℕ}

/-- One level of compilation gives a tree that is at most one level higher than what is nested
below. -/
lemma height_of_built (h : Built calls (fun sub => sub.height ≤ n + 1) tree) :
    tree.height ≤ n + 2 := by
  cases h with
  | inner h => omega
  | @array items b hitems n h =>
    rw [height]
    rcases hitems with hitems | rfl
    · exact Nat.succ_le_succ hitems
    · simp [height]
  | object nodup defined h =>
    rw [height]
    exact Nat.succ_le_succ (propertiesHeight_le_iff.2 h)
  | _ => simp [height]

/-- Above the ceiling nothing is known. -/
lemma eq_unknown_of_compile (h : (compile ctx 0 visiting text).result = .ok tree) :
    tree = .unknown := by
  obtain ⟨_, -, h⟩ := Run.result_bind_eq_ok.1 h
  rw [Run.result_pure, Except.ok.injEq] at h
  exact h.symm

/-- A tree is no higher than the levels allow that remain below the ceiling. -/
lemma height_of_compile {levels : ℕ}
    (h : (compile ctx levels visiting text).result = .ok tree) : tree.height ≤ levels + 1 := by
  induction levels generalizing visiting text tree with
  | zero => rw [eq_unknown_of_compile h, height]
  | succ levels ih =>
    rw [compile_eq] at h
    exact height_of_built (built_of_callsType (fun _ _ _ => ih) (fun _ _ => ih) h)

/-- The tree of an expression at a depth is no higher than what remains below the ceiling, and two
levels more: that of the ceiling itself, and the one of what lies above it. -/
theorem height_of_expression {depth : ℤ} (hdepth : depth ≤ ctx.settings.maxDepth + 1)
    (h : (expression ctx visiting depth text).result = .ok tree) :
    (tree.height : ℤ) ≤ ctx.settings.maxDepth - depth + 2 := by
  have hheight := height_of_compile h
  unfold levels at hheight
  omega

/-- What is known stands below the ceiling. -/
lemma depth_le_of_known {depth : ℤ} (h : (expression ctx visiting depth text).result = .ok tree)
    (hknown : tree ≠ .unknown) : depth ≤ ctx.settings.maxDepth := by
  by_contra habove
  have hlevels : levels ctx.settings depth = 0 := by
    unfold levels
    omega
  unfold expression at h
  rw [hlevels] at h
  exact hknown (eq_unknown_of_compile h)

end Compile
end SlideContract
