import Mathlib.Data.List.Infix
import Mathlib.Data.List.TakeWhile
import SlideContract.Json.Reader
import SlideContract.Proofs.Run
import SlideContract.Proofs.Text.Name

/-!
# Long integers in JSON

Each reader goes on at an end of its text. So the digits of an integer that is not read for its
length stand in the text one behind the other, and a text without so long a run of digits is read or
refused as malformed. A text that is nothing but such a run is never read.

* `Keeps`: a reading goes on at an end of the text;
* `allKeep`: every reader does;
* `hasLongRun_of_read`: integers that are not read stand in the text;
* `read_integer`: a text that is a long integer.
-/

namespace SlideContract.Json

variable {α β : Type} {text inner rest digits : List Char} {count : ℕ}

/-- So many digits stand in the text one behind the other, more than are read as an integer. -/
def HasLongRun (text : List Char) (count : ℕ) : Prop :=
  ∃ run, run <:+: text ∧ (∀ c ∈ run, c.isDigit = true) ∧ run.length = count ∧ digitLimit < count

lemma HasLongRun.of_suffix (h : HasLongRun inner count) (hinner : inner <:+ text) :
    HasLongRun text count := by
  obtain ⟨run, hrun, hdigits⟩ := h
  exact ⟨run, hrun.trans hinner.isInfix, hdigits⟩

/-- A reading goes on at an end of the text, and stops for the length of an integer only if its
digits stand in the text. -/
structure Keeps (result : Reading α text) : Prop where
  rest : ∀ a left, result = .ok (a, left) → left.1 <:+ text
  run : ∀ fault, result = .error (.digits fault) → HasLongRun text fault.count

namespace Keeps

lemma stop {reason : Stop} (h : ∀ fault, reason ≠ .digits fault) :
    Keeps (.error reason : Reading α text) :=
  ⟨fun _ _ => nofun, fun fault heq => absurd (Except.error.inj heq) (h fault)⟩

lemma stopAt (problem : Problem) (left : ℕ) : Keeps (stopAt problem left : Reading α text) :=
  stop fun _ => nofun

lemma ok {a : α} {left : Rest text} (h : left.1 <:+ text) : Keeps (.ok (a, left)) := by
  refine ⟨fun _ _ heq => ?_, fun _ => nofun⟩
  rw [← (Prod.mk.inj (Except.ok.inj heq)).2]
  exact h

/-- What is read at an end of the text is read in the text. -/
lemma map {result : Reading α inner} (h : Keeps result) (hinner : inner <:+ text) (f : α → β) :
    Keeps (result.map fun (a, left) => (f a, left.within hinner.length_le) : Reading β text) := by
  constructor
  · intro b left heq
    obtain ⟨⟨a, below⟩, hresult, heq⟩ := Except.map_eq_ok.1 heq
    rw [← (Prod.mk.inj heq).2]
    exact (h.rest a below hresult).trans hinner
  · intro fault heq
    exact (h.run fault (Except.map_eq_error.1 heq)).of_suffix hinner

/-- A reader that stops in a part of the text stops in the text. -/
lemma error {result : Reading α inner} {reason : Stop} (h : Keeps result)
    (hreason : result = .error reason) (hinner : inner <:+ text) :
    Keeps (.error reason : Reading β text) := by
  refine ⟨fun _ _ => nofun, fun fault heq => ?_⟩
  exact (h.run fault (by rw [hreason, Except.error.inj heq])).of_suffix hinner

end Keeps

lemma skip_suffix (text : List Char) : skip text <:+ text := List.dropWhile_suffix _

/-! ## Strings -/

lemma joinUnits_ne_digits (high : ℕ) (text : List Char) (fault : TooManyDigits) :
    joinUnits high text ≠ .error (.digits fault) := by
  unfold joinUnits
  dsimp only
  split
  · split
    · exact nofun
    · split <;> exact nofun
  · exact nofun

lemma keeps_readEscape (opening : ℕ) (text : List Char) : Keeps (readEscape opening text) := by
  unfold readEscape
  split
  · exact .stopAt _ _
  · rename_i c rest
    split
    · split
      · exact .stopAt _ _
      · split
        · exact .stopAt _ _
        · rename_i high _
          have hdigits := joinUnits_ne_digits high (rest.drop 4)
          cases hjoin : joinUnits high (rest.drop 4) with
          | error reason =>
            exact .stop fun fault heq => hdigits fault (by rw [hjoin, heq])
          | ok joined => exact .ok ((List.drop_suffix _ _).trans (List.suffix_cons c rest))
    · split
      · exact .ok (List.suffix_cons c rest)
      · exact .stopAt _ _

lemma keeps_readString (opening : ℕ) (text : List Char) : Keeps (readString opening text) := by
  fun_induction readString opening text with
  | case1 => exact .stopAt _ _
  | case2 rest => exact .ok (List.suffix_cons _ rest)
  | case3 rest reason hescape =>
    exact (keeps_readEscape opening rest).error hescape (List.suffix_cons _ rest)
  | case4 rest e after hlt hescape _ ih =>
    have hafter : after <:+ rest := (keeps_readEscape opening rest).rest _ _ hescape
    exact ih.map (hafter.trans (List.suffix_cons _ rest)) (e :: ·)
  | case5 => exact .stopAt _ _
  | case6 c rest _ _ _ ih => exact ih.map (List.suffix_cons c rest) (c :: ·)

/-! ## Constants and numbers -/

lemma append_of_spanDigits {after : List Char} (h : spanDigits text = (digits, after)) :
    text = digits ++ after ∧ ∀ c ∈ digits, c.isDigit = true := by
  unfold spanDigits at h
  rw [List.span_eq_takeWhile_dropWhile] at h
  obtain ⟨rfl, rfl⟩ := Prod.mk.inj h
  exact ⟨List.takeWhile_append_dropWhile.symm, fun c hc => List.mem_takeWhile_imp hc⟩

/-- The digits before the point stand at the beginning of the text. -/
lemma append_of_whole? {whole after : List Char} (h : whole? text = some (whole, after)) :
    text = whole ++ after ∧ ∀ c ∈ whole, c.isDigit = true := by
  unfold whole? at h
  split at h
  · obtain ⟨rfl, rfl⟩ := Prod.mk.inj (Option.some.inj h)
    exact ⟨rfl, List.forall_mem_singleton.2 rfl⟩
  · dsimp only at h
    split at h
    · exact nomatch h
    · obtain ⟨rfl, rfl⟩ := Prod.mk.inj (Option.some.inj h)
      exact append_of_spanDigits rfl

lemma spanDigits_suffix (text : List Char) : (spanDigits text).2 <:+ text := by
  have happend : text = (spanDigits text).1 ++ (spanDigits text).2 := (append_of_spanDigits rfl).1
  exact ⟨_, happend.symm⟩

lemma fraction?_suffix {fraction after : List Char} (h : fraction? text = some (fraction, after)) :
    after <:+ text := by
  unfold fraction? at h
  split at h
  · rename_i rest
    dsimp only at h
    split at h
    · exact nomatch h
    · rw [← (Prod.mk.inj (Option.some.inj h)).2]
      exact (spanDigits_suffix rest).trans (List.suffix_cons _ rest)
  · exact nomatch h

lemma exponent?_suffix {power : ℤ} {after : List Char} (h : exponent? text = some (power, after)) :
    after <:+ text := by
  unfold exponent? at h
  split at h
  · rename_i c rest
    split at h
    · split at h
      rename_i negative signed hsign
      have hsigned : signed <:+ rest := by
        split at hsign
        · exact (Prod.mk.inj hsign).2 ▸ List.suffix_cons _ _
        · exact (Prod.mk.inj hsign).2 ▸ List.suffix_cons _ _
        · exact (Prod.mk.inj hsign).2 ▸ List.suffix_refl _
      dsimp only at h
      split at h
      · exact nomatch h
      · rw [← (Prod.mk.inj (Option.some.inj h)).2]
        exact ((spanDigits_suffix signed).trans hsigned).trans (List.suffix_cons c rest)
    · exact nomatch h
  · exact nomatch h

/-- The digits of an integer that is not read for its length. -/
lemma readInt_eq_error {negative : Bool} {fault : TooManyDigits}
    (h : readInt negative digits = .error fault) :
    digits.length = fault.count ∧ digitLimit < fault.count := by
  have hnat : readNat digits = .error fault := Except.map_eq_error.1 (Except.map_eq_error.1 h)
  unfold readNat at hnat
  split at hnat
  · exact nomatch hnat
  · rename_i hlong
    rw [← Except.error.inj hnat]
    exact ⟨rfl, Nat.lt_of_not_le hlong⟩

/-- A numeral is read up to an end of the text, and its digits are too many only if they stand at
the beginning. -/
lemma numeral?_keeps {negative : Bool} {result : Except TooManyDigits Number} {after : List Char}
    (h : numeral? negative text = some (result, after)) :
    after <:+ text ∧ ∀ fault, result = .error fault → HasLongRun text fault.count := by
  unfold numeral? at h
  split at h
  · exact nomatch h
  · rename_i whole behind hwhole
    obtain ⟨rfl, hdigits⟩ := append_of_whole? hwhole
    have hbehind : behind <:+ whole ++ behind := List.suffix_append _ _
    split at h
    · obtain ⟨rfl, rfl⟩ := Prod.mk.inj (Option.some.inj h)
      refine ⟨hbehind, fun fault hfault => ?_⟩
      obtain ⟨hlength, hlong⟩ := readInt_eq_error (Except.map_eq_error.1 hfault)
      exact ⟨whole, (List.prefix_append _ _).isInfix, hdigits, hlength, hlong⟩
    · obtain ⟨rfl, rfl⟩ := Prod.mk.inj (Option.some.inj h)
      refine ⟨?_, fun _ => nofun⟩
      have hfraction : (fraction? behind).elim behind (·.2) <:+ behind := by
        cases hread : fraction? behind with
        | none => exact List.suffix_refl _
        | some read => exact fraction?_suffix hread
      cases hread : exponent? ((fraction? behind).elim behind (·.2)) with
      | none => exact hfraction.trans hbehind
      | some read => exact (exponent?_suffix hread).trans (hfraction.trans hbehind)

/-- The number at the beginning of a text, with its sign. -/
def signed? (text : List Char) : Option (Except TooManyDigits Number × List Char) :=
  match text with
  | '-' :: rest => numeral? true rest
  | _ => numeral? false text

lemma signed?_keeps {result : Except TooManyDigits Number} {after : List Char}
    (h : signed? text = some (result, after)) :
    after <:+ text ∧ ∀ fault, result = .error fault → HasLongRun text fault.count := by
  unfold signed? at h
  split at h
  · rename_i unsigned
    obtain ⟨hafter, hrun⟩ := numeral?_keeps h
    have hunsigned := List.suffix_cons '-' unsigned
    exact ⟨hafter.trans hunsigned, fun fault hfault => (hrun fault hfault).of_suffix hunsigned⟩
  · exact numeral?_keeps h

lemma append_of_constant? {value : Json} (h : constant? text = some (value, rest)) :
    ∃ constant ∈ constants, text = constant.1.toList ++ rest := by
  unfold constant? at h
  obtain ⟨constant, hmem, hconstant⟩ := List.exists_of_findSome?_eq_some h
  obtain ⟨left, hleft, heq⟩ := Option.map_eq_some_iff.1 hconstant
  rw [(Prod.mk.inj heq).2, Text.after?_eq_some_iff] at hleft
  exact ⟨constant, hmem, hleft⟩

lemma keeps_readScalar (text : List Char) : Keeps (readScalar text) := by
  have hfinish : ∀ (value : Json) (rest : List Char), rest <:+ text →
      Keeps (if h : rest.length < text.length then .ok (value, ⟨rest, h⟩)
        else stopAt .value text.length : Reading Json text) := by
    intro value rest hrest
    split
    · exact .ok hrest
    · exact .stopAt _ _
  unfold readScalar
  dsimp only
  split
  · rename_i value rest hconstant
    obtain ⟨constant, -, htext⟩ := append_of_constant? hconstant
    exact hfinish value rest ⟨_, htext.symm⟩
  · split
    · rename_i n rest hread
      exact hfinish (.num n) rest (signed?_keeps hread).1
    · rename_i fault rest hread
      refine ⟨fun _ _ => nofun, fun other heq => ?_⟩
      rw [← Stop.digits.inj (Except.error.inj heq)]
      exact (signed?_keeps hread).2 fault rfl
    · exact .stopAt _ _

/-! ## Values -/

/-- The readers of values, items and members keep to a text. -/
def AllKeep (text : List Char) : Prop :=
  Keeps (readValue text) ∧ Keeps (readItems text) ∧ Keeps (readMembers text)

section Step

variable (ih : ∀ shorter : List Char, shorter.length < text.length → AllKeep shorter)

include ih

lemma keeps_readValue_step : Keeps (readValue text) := by
  unfold readValue
  split
  · exact .stopAt _ _
  · rename_i c rest
    have hskip : skip rest <:+ c :: rest := (skip_suffix rest).trans (List.suffix_cons c rest)
    have hshort : (skip rest).length < (c :: rest).length := length_skip_lt_cons c rest
    split
    · exact (keeps_readString _ rest).map (List.suffix_cons c rest)
        (fun cs => Json.str (String.ofList cs))
    split
    · split
      · rename_i after hafter
        exact .ok ((List.suffix_cons _ _).trans (hafter ▸ hskip))
      · exact (ih _ hshort).2.1.map hskip Json.arr
    split
    · split
      · rename_i after hafter
        exact .ok ((List.suffix_cons _ _).trans (hafter ▸ hskip))
      · exact (ih _ hshort).2.2.map hskip (fun members => Json.obj (Entries.ofPairs members))
    exact keeps_readScalar _

lemma keeps_readItems_step (hvalue : Keeps (readValue text)) : Keeps (readItems text) := by
  unfold readItems
  split
  · rename_i reason hread
    exact hvalue.error hread (List.suffix_refl _)
  · rename_i item left hlt hread
    have hleft : left <:+ text := hvalue.rest _ _ hread
    split
    · exact .stopAt _ _
    · rename_i c rest hskip
      have hrest : rest <:+ text :=
        (List.suffix_cons c rest).trans ((hskip ▸ skip_suffix left).trans hleft)
      have hshort : (skip rest).length < text.length := by
        have hle := length_skip_le rest
        have hlt' := length_lt_of_skip hskip
        omega
      dsimp only
      split
      · exact .ok hrest
      split
      · exact (ih _ hshort).2.1.map ((skip_suffix rest).trans hrest) (item :: ·)
      · exact .stopAt _ _

lemma keeps_readMembers_step : Keeps (readMembers text) := by
  unfold readMembers
  split
  · exact .stopAt _ _
  · rename_i quote rest
    split
    · exact .stopAt _ _
    split
    · rename_i reason hname
      exact (keeps_readString _ rest).error hname (List.suffix_cons quote rest)
    · rename_i name left hlt hname
      have hleft : left <:+ rest := (keeps_readString _ rest).rest _ _ hname
      split
      · exact .stopAt _ _
      · rename_i colon more hskip
        have hmore : more <:+ quote :: rest :=
          (List.suffix_cons colon more).trans ((hskip ▸ skip_suffix left).trans
            (hleft.trans (List.suffix_cons quote rest)))
        -- the value is read from a shorter text, for which `ih` speaks
        have hshort : (skip more).length < (quote :: rest).length := by
          have hle := length_skip_le more
          have hlt' := length_lt_of_skip hskip
          rw [List.length_cons]
          omega
        dsimp only
        split
        · exact .stopAt _ _
        split
        · rename_i reason hvalue
          exact (ih _ hshort).1.error hvalue ((skip_suffix more).trans hmore)
        · rename_i value behind hv hvalue
          have hbehind : behind <:+ quote :: rest :=
            ((ih _ hshort).1.rest _ _ hvalue).trans ((skip_suffix more).trans hmore)
          split
          · exact .stopAt _ _
          · rename_i c after hskip'
            have hafter : after <:+ quote :: rest :=
              (List.suffix_cons c after).trans ((hskip' ▸ skip_suffix behind).trans hbehind)
            -- and so are the members behind the comma
            have hshort' : (skip after).length < (quote :: rest).length := by
              have hle := length_skip_le after
              have hlt' := length_lt_of_skip hskip'
              omega
            split
            · exact .ok hafter
            split
            · exact (ih _ hshort').2.2.map ((skip_suffix after).trans hafter)
                ((String.ofList name, value) :: ·)
            · exact .stopAt _ _

end Step

/-- Every reader goes on at an end of its text. -/
theorem allKeep (text : List Char) : AllKeep text := by
  generalize hlength : text.length = n
  induction n using Nat.strongRecOn generalizing text with
  | ind n ih =>
    subst hlength
    have hshorter := fun shorter hlt => ih _ hlt shorter rfl
    have hvalue := keeps_readValue_step hshorter
    exact ⟨hvalue, keeps_readItems_step hshorter hvalue, keeps_readMembers_step hshorter⟩

/-- An integer that is not read for its length stands in the text. -/
theorem hasLongRun_of_read {fault : TooManyDigits} (h : read text = .error (.digits fault)) :
    HasLongRun text fault.count := by
  unfold read at h
  split at h
  · exact nomatch h
  · split at h
    · rename_i reason hread
      have hdigits : reason = .digits fault := by
        cases reason with
        | malformed problem left => exact nomatch h
        | digits other => exact congrArg _ (Fault.digits.inj (Except.error.inj h))
      rw [hdigits] at hread
      exact ((allKeep _).1.run fault hread).of_suffix (skip_suffix text)
    · dsimp only at h
      split at h <;> exact nomatch h

/-! ## Integers alone -/

section Integer

variable (hdigits : ∀ c ∈ digits, c.isDigit = true)

include hdigits

/-- No constant begins with a digit. -/
lemma constant?_digits : constant? digits = none := by
  by_contra hsome
  obtain ⟨⟨value, rest⟩, hconstant⟩ := Option.ne_none_iff_exists'.1 hsome
  obtain ⟨constant, hmem, rfl⟩ := append_of_constant? hconstant
  have hletter : constants.all (fun constant => constant.1.toList.any (!·.isDigit)) = true := rfl
  obtain ⟨c, hc, hother⟩ := List.any_eq_true.1 (List.all_eq_true.1 hletter constant hmem)
  rw [hdigits c (List.mem_append_left _ hc)] at hother
  exact absurd hother Bool.false_ne_true

/-- A run of digits is read as a whole. -/
lemma numeral?_digits (hhead : digits.head? ≠ some '0') (hne : digits ≠ []) :
    numeral? false digits = some ((readInt false digits).map .int, []) := by
  have hspan : spanDigits digits = (digits, []) := by
    unfold spanDigits
    rw [List.span_eq_takeWhile_dropWhile, List.takeWhile_eq_self_iff.2 hdigits,
      List.dropWhile_eq_nil_iff.2 hdigits]
  have hwhole : whole? digits = some (digits, []) := by
    unfold whole?
    split
    · exact absurd rfl hhead
    · rw [hspan]
      cases digits with
      | nil => exact absurd rfl hne
      | cons c rest => rfl
  unfold numeral?
  rw [hwhole]
  rfl

/-- A text that is an integer of too many digits, and nothing else, is not read. -/
theorem read_integer (hhead : digits.head? ≠ some '0') (hlong : digitLimit < digits.length) :
    read digits = .error (.digits ⟨digits.length⟩) := by
  have hne : digits ≠ [] := by
    rintro rfl
    exact absurd hlong (by decide)
  have hint : readInt false digits = .error ⟨digits.length⟩ := by
    unfold readInt readNat
    rw [if_neg (Nat.not_le_of_lt hlong)]
    rfl
  obtain ⟨c, rest, rfl⟩ := List.exists_cons_of_ne_nil hne
  -- a digit begins none of the other forms, so every reader in front of the number's passes
  have hc : ∀ other : Char, other.isDigit = false → c ≠ other := by
    rintro other hother rfl
    exact absurd (hother.symm.trans (hdigits c List.mem_cons_self)) Bool.false_ne_true
  have hskip : skip (c :: rest) = c :: rest := by
    apply List.dropWhile_cons_of_neg
    simp [isSpace, hc ' ' (by decide), hc '\t' (by decide), hc '\n' (by decide),
      hc '\r' (by decide)]
  have hscalar : readScalar (c :: rest) = .error (.digits ⟨(c :: rest).length⟩) := by
    have hsigned : signed? (c :: rest) = some (.error ⟨(c :: rest).length⟩, []) := by
      unfold signed?
      split
      · rename_i heq
        exact absurd (List.cons.inj heq).1 (hc '-' (by decide))
      · rw [numeral?_digits hdigits hhead hne, hint]
        rfl
    unfold readScalar
    rw [constant?_digits hdigits]
    dsimp only
    split
    · rename_i hread
      exact nomatch hsigned.symm.trans hread
    · rename_i hread
      have heq := Option.some.inj (hsigned.symm.trans hread)
      rw [← Except.error.inj (Prod.mk.inj heq).1]
    · rename_i hread
      exact nomatch hsigned.symm.trans hread
  have hvalue : readValue (skip (c :: rest)) = .error (.digits ⟨(c :: rest).length⟩) := by
    rw [hskip]
    unfold readValue
    simp only [if_neg (hc '\x22' (by decide)), if_neg (hc '[' (by decide)),
      if_neg (hc '\x7b' (by decide)), hscalar]
  unfold read
  split
  · rename_i heq
    exact absurd (List.cons.inj heq).1 (hc '\ufeff' (by decide))
  · rw [hvalue]
    rfl

end Integer

end SlideContract.Json
