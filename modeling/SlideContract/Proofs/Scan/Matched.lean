import SlideContract.Proofs.Scan.Paired

/-!
# Regions found with a stack

The end of a region is found by counting the three kinds of brackets on their own. A matcher with a
stack pushes the closer of every opener in code and pops it for that closer only; it fails at any
other closer. Where the stack empties first, the region ends: the closers that are still on it are
what the depths count, so that these are not negative and not all zero before.

The converse fails for brackets that cross, as in `([)]`, where the depths are zero at the end but
the stack fails. What holds of the end of any region is that it is the closer of its opener, in
code, with all depths zero, none of which was negative before.

* `emptiedAt?`: the matcher with a stack;
* `exists_of_emptiedAt?`: the stack empties at a closer behind which no bracket is open;
* `regionEnd?_matched`: the two ways of finding the end of a region.
-/

namespace SlideContract.Scan

variable {text : List Char} {opener closer : Char}

/-- The index of the first visit behind which no closer is awaited any more, if every closer in code
up to there is the one that is awaited next. -/
def emptiedAt? (awaited : List Char) : List Visit → Option ℕ
  | [] => none
  | v :: rest =>
    match v.await? awaited with
    | none => none
    | some [] => some v.index
    | some later => emptiedAt? later rest

/-- The stack empties at the closer that lies at its bottom, behind visits that leave nothing on top
of that closer. -/
lemma exists_of_emptiedAt? {inner : List Char} {c : Char} {visited : List Visit} {j : ℕ}
    (h : emptiedAt? (inner ++ [c]) visited = some j) :
    ∃ front v rest, visited = front ++ v :: rest ∧ v.outside = true ∧ v.char = c ∧ v.index = j ∧
      awaited? inner front = some [] := by
  induction visited generalizing inner with
  | nil => exact absurd h (by simp [emptiedAt?])
  | cons w visited ih =>
    rw [emptiedAt?] at h
    cases hw : w.await? (inner ++ [c]) with
    | none =>
      rw [hw] at h
      exact absurd h (by simp)
    | some later =>
      rw [hw] at h
      rcases Visit.await?_cases hw with ⟨hout, rfl, hchar, rfl⟩ | ⟨inner', rfl, hinner⟩
      · exact ⟨[], w, visited, rfl, hout, hchar, Option.some.inj h, rfl⟩
      · -- the closer at the bottom is still on the stack, so that the matcher goes on
        obtain ⟨front, v, rest, rfl, hout, hchar, hindex, hfront⟩ :=
          @ih inner' (by cases inner' <;> exact h)
        exact ⟨w :: front, v, rest, rfl, hout, hchar, hindex, by
          rw [awaited?_cons, hinner]
          exact hfront⟩

/-- Where the walk begins moves the index and nothing else. -/
lemma emptiedAt?_later (offset : ℕ) (awaited : List Char) (visited : List Visit) :
    emptiedAt? awaited (visited.map (·.later offset))
      = (emptiedAt? awaited visited).map (offset + ·) := by
  induction visited generalizing awaited with
  | nil => rfl
  | cons v visited ih =>
    rw [List.map_cons, emptiedAt?, emptiedAt?,
      show (v.later offset).await? awaited = v.await? awaited from rfl]
    cases v.await? awaited with
    | none => rfl
    | some later =>
      cases later with
      | nil => rfl
      | cons c later => exact ih _

/-- The region of a bracket ends where the stack empties. -/
lemma regionLength?_of_emptiedAt? (hcloser : closer? opener = some closer) {j : ℕ}
    (h : emptiedAt? [] (walk (opener :: text)) = some j) :
    regionLength? (opener :: text) = some (j + 1) := by
  rw [walk_opener hcloser, emptiedAt?, await?_opener hcloser] at h
  obtain ⟨front, v, rest, hvisits, hout, hchar, rfl, hfront⟩ :=
    @exists_of_emptiedAt? [] closer _ _ h
  obtain ⟨inner, behind, -, -, -, hindex, hregion⟩ :=
    exists_inner hcloser hvisits hout hchar hfront
  rw [hregion, hindex]

/-- The end of a region is the closer of its opener, with all depths zero and none negative up to
there. -/
lemma exists_end_of_regionLength? (hcloser : closer? opener = some closer) {n : ℕ}
    (h : regionLength? (opener :: text) = some n) :
    ∃ front v rest, walk (opener :: text) = front ++ v :: rest ∧ n = v.index + 1 ∧
      v.outside = true ∧ v.char = closer ∧ v.after.isLevel = true ∧
      ∀ w ∈ front ++ [v], w.after.unbalanced = false := by
  obtain ⟨front, v, rest, hwalk, hn, hout, hchar, htop, hfront⟩ :=
    (regionLength?_eq_some_iff hcloser).1 h
  have hsplit : walk (opener :: text) = (front ++ [v]) ++ rest := by rw [hwalk]; simp
  refine ⟨front, v, rest, hwalk, hn, hout, hchar, (Bool.and_eq_true_iff.1 htop).2,
    unbalanced_of_outside rfl hsplit ?_⟩
  intro w hw hwout
  rcases List.mem_append.1 hw with hw | hw
  · -- what comes before the end of the region does not settle it
    have hnone := hfront w hw
    unfold settles at hnone
    rw [hwout, Bool.true_and, Bool.or_eq_false_iff] at hnone
    exact hnone.1
  · rw [List.mem_singleton.1 hw]
    exact State.unbalanced_of_atTopLevel htop

/-- The region that opens at a bracket ends where a stack of the closers that are awaited empties
first. Whenever such a region ends, it ends with the closer of its bracket, in code, with the depths
of all three kinds of brackets zero and none of them negative before. -/
theorem regionEnd?_matched {index : ℕ} (hopener : text[index]? = some opener)
    (hcloser : closer? opener = some closer) :
    (∀ j, emptiedAt? [] (visits {} index (text.drop index)) = some j →
      regionEnd? text index = some (j + 1)) ∧
    ∀ e, regionEnd? text index = some e →
      ∃ front v rest, visits {} index (text.drop index) = front ++ v :: rest ∧ e = v.index + 1 ∧
        v.outside = true ∧ v.char = closer ∧
        v.after.paren = 0 ∧ v.after.brace = 0 ∧ v.after.bracket = 0 ∧
        ∀ w ∈ front ++ [v], w.after.unbalanced = false := by
  obtain ⟨hlt, hget⟩ := List.getElem?_eq_some_iff.1 hopener
  have hdrop : text.drop index = opener :: text.drop (index + 1) := by
    rw [List.drop_eq_getElem_cons hlt, hget]
  -- a region is measured by a walk from its own start, and places in the text are that many later
  have hvisits : visits {} index (text.drop index)
      = (walk (text.drop index)).map (·.later index) := visits_later {} index 0 _
  unfold regionEnd?
  rw [hvisits, hdrop]
  constructor
  · intro j hj
    rw [emptiedAt?_later] at hj
    obtain ⟨k, hk, rfl⟩ := Option.map_eq_some_iff.1 hj
    rw [regionLength?_of_emptiedAt? hcloser hk]
    rfl
  · intro e he
    obtain ⟨n, hn, rfl⟩ := Option.map_eq_some_iff.1 he
    obtain ⟨front, v, rest, hwalk, rfl, hout, hchar, hlevel, hbalanced⟩ :=
      exists_end_of_regionLength? hcloser hn
    simp only [State.isLevel, Bool.and_eq_true, beq_iff_eq, and_assoc] at hlevel
    refine ⟨front.map (·.later index), v.later index, rest.map (·.later index), ?_, rfl, hout,
      hchar, hlevel.1, hlevel.2.1, hlevel.2.2, ?_⟩
    · rw [hwalk, List.map_append, List.map_cons]
    · intro w hw
      have hmap : w ∈ (front ++ [v]).map (·.later index) := by
        rw [List.map_append]
        exact hw
      obtain ⟨u, hu, rfl⟩ := List.mem_map.1 hmap
      exact hbalanced u hu

/-- The brackets of a field whose text holds brackets in a string and in a comment. -/
theorem regionEnd?_matched_field :
    regionEnd? "z.array([\x7ba: ')('\x7d /* ] */])".toList 7 = some 28 ∧
      ∃ v ∈ visits {} 7 ("z.array([\x7ba: ')('\x7d /* ] */])".toList.drop 7),
        v.index = 27 ∧ v.char = ')' ∧ v.after.paren = 0 := by
  obtain ⟨hmatched, hends⟩ := @regionEnd?_matched "z.array([\x7ba: ')('\x7d /* ] */])".toList
    '(' ')' 7 (by decide) (by decide)
  have hregion := hmatched 27 (by decide +kernel)
  obtain ⟨front, v, rest, hvisits, hindex, -, hchar, hparen, -⟩ := hends 28 hregion
  refine ⟨hregion, v, ?_, (Nat.succ.inj hindex).symm, hchar, hparen⟩
  rw [hvisits]
  exact List.mem_append_right _ List.mem_cons_self

end SlideContract.Scan
