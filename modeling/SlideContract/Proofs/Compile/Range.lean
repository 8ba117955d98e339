import SlideContract.Proofs.Compile.Built
import SlideContract.Proofs.Document.Numbers
import SlideContract.Proofs.Document.Sound
import SlideContract.Proofs.Number.Overflow

/-!
# How large bounds can be

The bounds on lengths are naturals. A bound on a number is an integer or a binary64 value that is
read from a numeral of the expression or of a declaration. It is infinite exactly if the numeral has
a point or an exponent and is as large as what is rounded to infinity; it is always a number.

* `number_cases`: what a numeral is read as;
* `numberArgument_eq_infinite_iff`: the numerals that are read as infinity;
* `readFrom_of_compile`: the bounds of a compiled tree.
-/

namespace SlideContract
open scoped List

namespace Compile
open Text

/-- The exact magnitude of a numeral. -/
def Numeral.magnitude (n : Numeral) : ℚ :=
  natOfDigits (n.whole ++ n.fraction.getD []) *
    10 ^ (n.exponent.getD 0 - ((n.fraction.getD []).length : ℤ))

/-- The numeral has a point or an exponent, so that it is read as a binary64 value. -/
def Numeral.IsReal (n : Numeral) : Prop := n.fraction.isSome = true ∨ n.exponent.isSome = true

/-- A number that bounds another may be: an integer, a finite value, or the infinity that a numeral
of the text is rounded to. -/
inductive ReadFrom (source : List Char) : Number → Prop where
  | int (i : ℤ) : ReadFrom source (.int i)
  | finite (negative : Bool) (m : ℕ) (e : ℤ) : ReadFrom source (.real (.finite negative m e))
  | infinite {text : List Char} {n : Numeral} (hpart : text <+ source)
    (hnumeral : numeral? text = some n) (hreal : n.IsReal)
    (hlarge : Binary64.overflow ≤ n.magnitude) : ReadFrom source (.real (.infinite n.negative))

lemma ReadFrom.mono {text source : List Char} {x : Number} (h : ReadFrom text x)
    (hpart : text <+ source) : ReadFrom source x := by
  cases h with
  | int i => exact .int i
  | finite negative m e => exact .finite negative m e
  | infinite hinner hnumeral hreal hlarge =>
    exact .infinite (hinner.trans hpart) hnumeral hreal hlarge

/-! ## Numerals -/

variable {n : Numeral} {x : Number}

lemma fits_readReal (n : Numeral) :
    Binary64.Fits n.negative n.magnitude
      (readReal n.negative n.whole (n.fraction.getD []) (n.exponent.getD 0)) :=
  Binary64.fits_ofDecimal n.negative _ _

/-- A numeral is read as an integer, as a finite value if its magnitude is below what is rounded to
infinity, or else as the infinity of its sign. -/
lemma number_cases (h : n.number = .ok x) :
    (∃ i, x = .int i ∧ (n.IsReal → n.magnitude < Binary64.overflow)) ∨
      (∃ m e, x = .real (.finite n.negative m e) ∧ n.magnitude < Binary64.overflow) ∨
      x = .real (.infinite n.negative) ∧ n.IsReal ∧ Binary64.overflow ≤ n.magnitude := by
  unfold Numeral.number at h
  simp only at h
  have hfits := fits_readReal n
  set real := readReal n.negative n.whole (n.fraction.getD []) (n.exponent.getD 0)
  split at h
  · rename_i hfraction
    rw [← Except.ok.inj h]
    rcases hfits with ⟨hlarge, heq⟩ | ⟨hsmall, m, e, heq⟩
    · exact Or.inr (Or.inr ⟨by rw [heq], Or.inl hfraction, hlarge⟩)
    · exact Or.inr (Or.inl ⟨m, e, by rw [heq], hsmall⟩)
  · split at h
    · rename_i hexponent
      rcases hfits with ⟨hlarge, heq⟩ | ⟨hsmall, m, e, heq⟩
      · -- infinity is no integer
        rw [heq] at h
        exact Or.inr (Or.inr ⟨(Except.ok.inj h).symm, Or.inr hexponent, hlarge⟩)
      · split at h
        · exact Or.inl ⟨_, (Except.ok.inj h).symm, fun _ => hsmall⟩
        · rw [heq] at h
          exact Or.inr (Or.inl ⟨m, e, (Except.ok.inj h).symm, hsmall⟩)
    · rename_i hfraction hexponent
      have hinteger : ¬ n.IsReal := not_or.2 ⟨hfraction, hexponent⟩
      obtain ⟨i, -, rfl⟩ := Except.map_eq_ok.1 h
      exact Or.inl ⟨i, rfl, fun hreal => absurd hreal hinteger⟩

/-- A numeral with a point or an exponent is always read. -/
lemma exists_number (hreal : n.IsReal) : ∃ x, n.number = .ok x := by
  unfold Numeral.number
  simp only
  split
  · exact ⟨_, rfl⟩
  · split
    · split
      · exact ⟨_, rfl⟩
      · exact ⟨_, rfl⟩
    · rename_i hfraction hexponent
      exact absurd hreal (not_or.2 ⟨hfraction, hexponent⟩)

/-- A numeral with a point or an exponent is read as infinity exactly if its magnitude is as large
as what is rounded to infinity. -/
theorem numberArgument_eq_infinite_iff {text : List Char} (hnumeral : numeral? text = some n)
    (hreal : n.IsReal) :
    numberArgument text = .ok (some (.real (.infinite n.negative))) ↔
      Binary64.overflow ≤ n.magnitude := by
  obtain ⟨x, hx⟩ := exists_number hreal
  have hread : numberArgument text = .ok (some x) := by
    unfold numberArgument
    rw [hnumeral]
    show n.number.map some = _
    rw [hx]
    rfl
  rw [hread]
  -- an integer may be read of an exponent, if the value that it is read as is finite
  rcases number_cases hx with ⟨i, rfl, hsmall⟩ | ⟨m, e, rfl, hsmall⟩ | ⟨rfl, -, hlarge⟩
  · exact iff_of_false (by rintro ⟨⟩) (not_le.2 (hsmall hreal))
  · exact iff_of_false (by rintro ⟨⟩) (not_le.2 hsmall)
  · exact iff_of_true rfl hlarge

/-- A number that is read of a text is read of a numeral in it. -/
lemma readFrom_of_numberArgument {text : List Char} (h : numberArgument text = .ok (some x)) :
    ReadFrom text x := by
  unfold numberArgument at h
  split at h
  · rename_i n hn
    obtain ⟨y, hx, hy⟩ := Except.map_eq_ok.1 h
    obtain rfl : y = x := Option.some.inj hy
    rcases number_cases hx with ⟨i, rfl, -⟩ | ⟨m, e, rfl, -⟩ | ⟨rfl, hreal, hlarge⟩
    · exact .int i
    · exact .finite _ m e
    · exact .infinite (List.Sublist.refl text) hn hreal hlarge
  · exact absurd h (by simp)

/-! ## Bounds -/

variable {b b' : Bounds} {calls : List Call} {call : Call} {P : Number → Prop}

lemma mem_numbers_setRange {name : String} {y : Number} (h : y ∈ (setRange b name x).numbers) :
    y = x ∨ y ∈ b.numbers := by
  rw [Bounds.mem_numbers] at h ⊢
  unfold setRange at h
  split at h
  · exact h.imp (fun hx => (Option.some.inj hx).symm) Or.inr
  · exact h.imp (fun hx => (Option.some.inj hx).symm) Or.inr
  · exact h.symm.imp (fun hx => (Option.some.inj hx).symm) Or.inl
  · exact h.symm.imp (fun hx => (Option.some.inj hx).symm) Or.inl
  · exact Or.inr h

/-- One more modifier of a number sets a bound that is read of its argument, if any. -/
lemma numbers_of_rangeStep (hbounds : ∀ y ∈ b.numbers, P y)
    (hread : ∀ y, ReadFrom (firstArgument call.args) y → P y) (h : rangeStep b call = .ok b') :
    ∀ y ∈ b'.numbers, P y := by
  unfold rangeStep at h
  split at h
  · obtain ⟨found, hargument, h⟩ := Except.bind_eq_ok.1 h
    cases found with
    | none => exact Except.ok.inj h ▸ hbounds
    | some x =>
      rw [← Except.ok.inj h]
      intro y hy
      rcases mem_numbers_setRange hy with rfl | hy
      · exact hread y (readFrom_of_numberArgument hargument)
      · exact hbounds y hy
  · exact Except.ok.inj h ▸ hbounds

/-- The bounds of a number are read of the chain. -/
lemma readFrom_of_rangeBounds {n : ℕ} (h : rangeBounds (calls.drop n) = .ok b) :
    ∀ y ∈ b.numbers, ReadFrom (Chain.render calls) y := by
  refine Bounds.keeps_of_foldlM (fun b => ∀ y ∈ b.numbers, ReadFrom (Chain.render calls) y)
    (fun call hcall b b' hbounds heq => ?_) (fun y hy => absurd hy (by simp [Bounds.numbers])) h
  refine numbers_of_rangeStep hbounds (fun y hy => hy.mono ?_) heq
  exact sublist_firstArgument_of_mem (List.mem_of_mem_drop hcall)

lemma readFrom_of_areSizes {source : List Char} (h : b.AreSizes) :
    ∀ y ∈ b.numbers, ReadFrom source y := by
  intro y hy
  have hsize : y.IsSize := (Bounds.mem_numbers.1 hy).elim (h.min y) (h.max y)
  obtain ⟨size, rfl⟩ := hsize
  exact .int size

/-! ## Trees -/

/-- The bounds of a tree that a level gives are read of what was written, if those of the level
below are. -/
lemma readFrom_of_built {source : List Char} {tree : TypeTree}
    (hsource : Chain.render calls <+ source)
    (h : Built calls (fun tree => ∀ y ∈ tree.numbers, ReadFrom source y) tree) :
    ∀ y ∈ tree.numbers, ReadFrom source y := by
  intro y hy
  -- sizes are integers, so only a bound of a number can be an infinity that the source has to name
  cases h with
  | inner h => exact h y hy
  | unknown => exact absurd hy (by simp [TypeTree.numbers])
  | boolean => exact absurd hy (by simp [TypeTree.numbers])
  | enum values => exact absurd hy (by simp [TypeTree.numbers])
  | string n h =>
    rw [TypeTree.numbers] at hy
    exact readFrom_of_areSizes (.lengthBounds h) y hy
  | number n h =>
    rw [TypeTree.numbers] at hy
    exact (readFrom_of_rangeBounds h y hy).mono hsource
  | array hitems n h =>
    rw [TypeTree.numbers] at hy
    rcases List.mem_append.1 hy with hinner | hown
    · rcases hitems with hitems | rfl
      · exact hitems y hinner
      · exact absurd hinner (by simp [TypeTree.numbers])
    · exact readFrom_of_areSizes (.sizeBounds h) y hown
  | object nodup defined h =>
    rw [TypeTree.numbers] at hy
    obtain ⟨property, hproperty, hy⟩ := TypeTree.mem_propertyNumbers hy
    exact h property hproperty y hy

/-- The bounds of a compiled tree are read of the expression or of a declaration. -/
theorem readFrom_of_compile {ctx : Context} {source text : List Char} {levels : ℕ}
    {visiting : List String} {tree : TypeTree} (htext : text <+ source)
    (htable : ∀ declaration ∈ ctx.table, declaration.2 <+ source)
    (h : (compile ctx levels visiting text).result = .ok tree) :
    ∀ y ∈ tree.numbers, ReadFrom source y :=
  built_of_compile (· <+ source) (fun _ _ => List.Sublist.trans) htable
    (fun _ _ => readFrom_of_built) htext h

end Compile
end SlideContract
