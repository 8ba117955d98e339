import SlideContract.Json.Writer
import SlideContract.Proofs.Chain.Literal

/-!
# Standard literals

A standard literal writes a control character and a character beyond ASCII by an escape of several
characters. Reading a literal takes the backslash away from every escape and leaves what stands
behind it, so that a text comes back from its standard literal exactly if all its characters are
printable ASCII.

* `inside_written`: what a standard literal holds may stand between double quotes;
* `unquote_written_iff`: which texts are read back from their standard literals.
-/

namespace SlideContract.Chain
open Json

/-- The quote of standard literals. -/
def standardQuote : Char := '\x22'

/-- What a standard literal holds between its quotes. -/
def written (value : List Char) : List Char := value.flatMap writtenChar

/-- A standard literal is its content between two double quotes. -/
lemma writtenString_toList (s : String) :
    (writtenString s).toList = enclosed standardQuote (written s.toList) := by
  simp [writtenString, enclosed, written, standardQuote]

/-- A printable ASCII character, which stands for itself or behind one backslash. -/
def IsPlainAscii (c : Char) : Prop := 0x20 ≤ c.toNat ∧ c.toNat < 0x7f

instance (c : Char) : Decidable (IsPlainAscii c) := inferInstanceAs (Decidable (_ ∧ _))

/-! ## Digits -/

/-- Digits are printable, and are neither a backslash nor a quote. -/
lemma hexDigit_chars (n : ℕ) :
    IsPlainAscii (Text.hexDigit n) ∧ Text.hexDigit n ≠ '\\' ∧
      Text.hexDigit n ≠ standardQuote := by
  have hdigits : ∀ c ∈ '0' :: "0123456789abcdef".toList,
      IsPlainAscii c ∧ c ≠ '\\' ∧ c ≠ standardQuote :=
    List.all_iff_forall_prop.1 (by decide)
  apply hdigits
  unfold Text.hexDigit
  rw [List.getD_eq_getElem?_getD]
  cases h : "0123456789abcdef".toList[n]? with
  | none => exact List.mem_cons_self
  | some c => exact List.mem_cons_of_mem _ (List.mem_of_getElem? h)

lemma forall_mem_hex (width n : ℕ) :
    ∀ c ∈ Text.hex width n, IsPlainAscii c ∧ c ≠ '\\' ∧ c ≠ standardQuote := by
  induction width generalizing n with
  | zero => exact fun c hc => absurd hc List.not_mem_nil
  | succ width ih =>
    intro c hc
    rcases List.mem_append.1 hc with hc | hc
    · exact ih _ c hc
    · rw [List.mem_singleton.1 hc]
      exact hexDigit_chars _

lemma inside_hex (width n : ℕ) : Inside standardQuote (Text.hex width n) := by
  have hdigits := forall_mem_hex width n
  refine inside_of_forall (fun c hc => (hdigits c hc).2) fun hmem => ?_
  exact absurd (hdigits _ hmem).1 (by decide)

/-! ## Characters -/

/-- A text that begins with the escape of a printable character. -/
def IsEscape (text : List Char) : Prop :=
  ∃ c rest, text = '\\' :: c :: rest ∧ IsPlainAscii c ∧ Inside standardQuote rest

lemma isEscape_unit (n : ℕ) : IsEscape (escapedUnit n) :=
  ⟨'u', _, rfl, by decide, inside_hex 4 n⟩

/-- A printable character stands for itself, behind a backslash if it is one or is the quote. -/
lemma writtenChar_of_plain {c : Char} (h : IsPlainAscii c) :
    writtenChar c = escape standardQuote [c] := by
  have hne : ∀ d, ¬ IsPlainAscii d → (c == d) = false := by
    rintro d hd
    exact beq_false_of_ne fun heq => hd (heq ▸ h)
  unfold writtenChar escape standardQuote
  rw [hne '\n' (by decide), hne '\r' (by decide), hne '\t' (by decide), hne '\x08' (by decide),
    hne '\x0c' (by decide)]
  by_cases hquote : c = '\x22'
  · simp [hquote, escape]
  by_cases hbackslash : c = '\\'
  · simp [hbackslash, escape]
  · simp [hquote, hbackslash, h.1, h.2, escape]

/-- Every other character is escaped. -/
lemma isEscape_writtenChar {c : Char} (h : ¬ IsPlainAscii c) : IsEscape (writtenChar c) := by
  have hne : ∀ d, IsPlainAscii d → (c == d) = false := by
    rintro d hd
    exact beq_false_of_ne fun heq => h (heq ▸ hd)
  have hrange : (decide (0x20 ≤ c.toNat) && decide (c.toNat < 0x7f)) = false := by
    rw [Bool.and_eq_false_iff, decide_eq_false_iff_not, decide_eq_false_iff_not]
    exact not_and_or.1 h
  unfold writtenChar
  rw [hne '\x22' (by decide), hne '\\' (by decide), hrange]
  simp only [Bool.false_eq_true, if_false]
  split_ifs
  · exact ⟨'n', [], rfl, by decide, .nil⟩
  · exact ⟨'r', [], rfl, by decide, .nil⟩
  · exact ⟨'t', [], rfl, by decide, .nil⟩
  · exact ⟨'b', [], rfl, by decide, .nil⟩
  · exact ⟨'f', [], rfl, by decide, .nil⟩
  · exact isEscape_unit _
  · exact ⟨'u', _, rfl, by decide, (inside_hex 4 _).append (.escaped 'u' (inside_hex 4 _))⟩

/-! ## Literals -/

lemma written_eq_nil_iff {value : List Char} : written value = [] ↔ value = [] := by
  cases value with
  | nil => exact iff_of_true rfl rfl
  | cons c rest =>
    refine iff_of_false (fun hnil => ?_) (List.cons_ne_nil c rest)
    have hchar := (List.append_eq_nil_iff.1 hnil).1
    by_cases hplain : IsPlainAscii c
    · rw [writtenChar_of_plain hplain] at hchar
      unfold escape at hchar
      split at hchar <;> exact absurd hchar (List.cons_ne_nil _ _)
    · obtain ⟨d, more, heq, -⟩ := isEscape_writtenChar hplain
      exact absurd (heq.symm.trans hchar) (List.cons_ne_nil _ _)

/-- What a standard literal holds may stand between its quotes. -/
lemma inside_written (value : List Char) : Inside standardQuote (written value) := by
  induction value with
  | nil => exact .nil
  | cons c rest ih =>
    have hchar : Inside standardQuote (writtenChar c) := by
      by_cases hplain : IsPlainAscii c
      · rw [writtenChar_of_plain hplain]
        refine inside_escape fun hmem => ?_
        rw [← List.mem_singleton.1 hmem] at hplain
        exact absurd hplain (by decide)
      · obtain ⟨d, more, heq, -, hinside⟩ := isEscape_writtenChar hplain
        rw [heq]
        exact .escaped d hinside
    exact hchar.append ih

/-- A text is what its standard literal holds, with its escapes read, exactly if it is printable. -/
lemma unescape_written_iff {value : List Char} :
    unescape (written value) = value ↔ ∀ c ∈ value, IsPlainAscii c := by
  induction value with
  | nil => exact iff_of_true rfl fun c hc => absurd hc List.not_mem_nil
  | cons c rest ih =>
    show unescape (writtenChar c ++ written rest) = c :: rest ↔ _
    rw [List.forall_mem_cons, ← ih]
    by_cases hplain : IsPlainAscii c
    · have hread : unescape (writtenChar c ++ written rest) = c :: unescape (written rest) := by
        rw [writtenChar_of_plain hplain, unescape_append (inside_escape fun hmem => ?_),
          unescape_escape (by decide), List.singleton_append]
        rw [← List.mem_singleton.1 hmem] at hplain
        exact absurd hplain (by decide)
      rw [hread, List.cons.injEq, eq_self_iff_true, true_and, and_iff_right hplain]
    · -- what is read instead is printable, so it is another character
      refine iff_of_false ?_ fun h => hplain h.1
      obtain ⟨d, more, hchar, hd, -⟩ := isEscape_writtenChar hplain
      have hline : d ≠ '\n' := by
        rintro rfl
        exact absurd hd (by decide)
      rw [hchar, List.cons_append, List.cons_append, unescape, if_neg hline]
      intro heq
      rw [(List.cons.inj heq).1] at hd
      exact hplain hd

/-- The text of a standard literal is read back exactly if all its characters are printable
ASCII. -/
theorem unquote_written_iff (s : String) :
    unquote (writtenString s).toList = some s.toList ↔ ∀ c ∈ s.toList, IsPlainAscii c := by
  rw [writtenString_toList, unquote_enclosed (by decide), Option.some.injEq, unescape_written_iff]

/-- A line break comes back as the letter of its escape. -/
theorem unquote_written_line :
    unquote (writtenString "a\nb").toList = some "anb".toList ∧
      unquote (writtenString "a\nb").toList ≠ some "a\nb".toList := by
  refine ⟨by decide +kernel, fun h => ?_⟩
  have hplain := (unquote_written_iff "a\nb").1 h '\n' (by decide +kernel)
  exact absurd hplain (by decide)

end SlideContract.Chain
