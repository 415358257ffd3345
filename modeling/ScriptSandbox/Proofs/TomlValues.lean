import Mathlib
import ScriptSandbox.Proofs.OutcomeText
import ScriptSandbox.Proofs.TomlTexts

/-!
Values that are read as they were written: integers, truth values, texts, and arrays of texts. What stands behind
an integer is a line break, so it is taken neither for a date nor for a time.
-/

namespace ScriptSandbox.Toml

/-! ### Integers -/

section

variable (digits : List Char) (proper : Json.Digits digits)
include proper

theorem groupedDigits_of_digits : groupedDigits Char.isDigit digits = some digits := by
  obtain ⟨some_, all⟩ := proper
  induction digits with
  | nil => exact absurd rfl some_
  | cons c rest ih =>
    have digit := all c List.mem_cons_self
    cases rest with
    | nil => exact if_pos digit
    | cons d rest =>
      have others : ∀ c ∈ d :: rest, c.isDigit = true := fun e among => all e (List.mem_cons_of_mem c among)
      have notScore : d ≠ '_' := Json.ne_of_isDigit d '_' (others d List.mem_cons_self) rfl
      rw [groupedDigits, if_pos digit, ih (List.cons_ne_nil d rest) others]
      · rfl
      · exact nofun
      · exact fun _ same => notScore (List.cons.inj same).1

theorem unsigned?_digits (zero : digits.head? = some '0' → digits = ['0']) :
    unsigned? digits = some (.inl (Decimal.ofDigits digits)) := by
  have other (d : Char) (among : d ∈ digits) (c : Char) (notDigit : c.isDigit = false) : d ≠ c :=
    Json.ne_of_isDigit d c (proper.2 d among) notDigit
  have named (word : List Char) (c : Char) (among : c ∈ word) (notDigit : c.isDigit = false) : digits ≠ word := by
    rintro rfl
    exact other c among c notDigit rfl
  have mantissa : ∀ c ∈ digits, (!(c == 'e' || c == 'E')) = true := by
    intro c among
    simp [other c among 'e' rfl, other c among 'E' rfl]
  have whole : ∀ c ∈ digits, (c != '.') = true := by
    intro c among
    simp [other c among '.' rfl]
  have plain : wholeDigits? digits = some digits := by
    have front : ¬ (digits.head? = some '0' ∧ 1 < digits.length) := by
      rintro ⟨zeros, long⟩
      rw [zero zeros] at long
      exact absurd long (by decide)
    rw [wholeDigits?, groupedDigits_of_digits digits proper]
    exact if_neg front
  rw [unsigned?, if_neg (named "inf".toList 'i' (by decide) rfl), if_neg (named "nan".toList 'n' (by decide) rfl)]
  simp only [List.takeWhile_eq_self_iff.2 mantissa, List.dropWhile_eq_nil_iff.2 mantissa,
    List.takeWhile_eq_self_iff.2 whole, List.dropWhile_eq_nil_iff.2 whole, plain]
  rfl

end

theorem number?_digits (digits : List Char) (all : ∀ c ∈ digits, c.isDigit = true) (size : Nat)
    (read : unsigned? digits = some (.inl size)) (fits : fitsWord size = true) :
    number? digits = some (.integer size) := by
  have notDigit (c : Char) (other : c.isDigit = false) (among : c ∈ digits) : False :=
    Bool.false_ne_true (other.symm.trans (all c among))
  have signless (mark : Char) (other : mark.isDigit = false) (rest : List Char) (same : digits = mark :: rest) :
      False := notDigit mark other (same ▸ List.mem_cons_self)
  have unbased (mark : Char) (other : mark.isDigit = false) (rest : List Char) (same : digits = '0' :: mark :: rest) :
      False := notDigit mark other (same ▸ List.mem_cons_of_mem _ List.mem_cons_self)
  have noMinus := signless '-' rfl
  have noPlus := signless '+' rfl
  unfold number?
  split
  · exact (unbased 'x' rfl _ rfl).elim
  · exact (unbased 'o' rfl _ rfl).elim
  · exact (unbased 'b' rfl _ rfl).elim
  · simp only [read]
    exact if_pos fits

theorem number?_minus (digits : List Char) (size : Nat) (read : unsigned? digits = some (.inl size))
    (fits : fitsWord (-(size : Int)) = true) : number? ('-' :: digits) = some (.integer (-(size : Int))) := by
  unfold number?
  split
  · next same => cases same
  · next same => cases same
  · next same => cases same
  · simp only [read]
    exact if_pos fits

theorem number?_integer (n : Int) (fits : fitsWord n = true) : number? (toString n).toList = some (.integer n) := by
  have proper := Json.digits_toDigits n.natAbs
  have read := unsigned?_digits _ proper (Json.toDigits_zero_front n.natAbs)
  rw [Decimal.ofDigits_toDigits] at read
  rw [Json.toString_eq]
  split
  · next negative =>
    have worth : -(n.natAbs : Int) = n := by omega
    rw [← worth] at fits
    exact (number?_minus _ n.natAbs read fits).trans (by rw [worth])
  · next positive =>
    have worth : (n.natAbs : Int) = n := by omega
    rw [← worth] at fits
    exact (number?_digits _ proper.2 n.natAbs read fits).trans (by rw [worth])

/-- There is no date where the digits in front do not end before a hyphen. -/
theorem date?_eq_none (input : List Char) (apart : (input.head?.any Char.isDigit) = true →
    (input.dropWhile Char.isDigit).head? ≠ some '-') : date? input = none := by
  unfold date?
  split
  · next digits =>
    split
    · next rest behind =>
      simp only [Bool.and_eq_true, decide_eq_true_eq, List.all_eq_true] at digits
      have whole : input = input.take 4 ++ '-' :: rest := by rw [← behind, List.take_append_drop]
      have some_ : 0 < (input.take 4).length := by
        rw [digits.1]
        decide
      obtain ⟨first, more, front⟩ := List.exists_cons_of_length_pos some_
      have begins : input.head? = some first := by
        rw [whole, front]
        rfl
      have digit : first.isDigit = true := digits.2 first (front ▸ List.mem_cons_self)
      refine absurd ?_ (apart (by rw [begins]; exact digit))
      rw [whole, List.dropWhile_append_of_pos digits.2]
      rfl
    · rfl
  · rfl

theorem twoDigits_eq_some (least greatest : Nat) (input rest : List Char)
    (read : twoDigits least greatest input = some rest) :
    ∃ a b, input = a :: b :: rest ∧ a.isDigit = true ∧ b.isDigit = true := by
  unfold twoDigits at read
  split at read
  · next a b _ =>
    split at read
    · next digits =>
      rw [Bool.and_eq_true] at digits
      simp only [Option.ite_none_right_eq_some, Option.some.injEq] at read
      exact ⟨a, b, by rw [read.2], digits⟩
    · cases read
  · cases read

/-- There is no time where the digits in front do not end before a colon. -/
theorem time?_eq_none (input : List Char) (apart : (input.dropWhile Char.isDigit).head? ≠ some ':') :
    time? input = none := by
  unfold time?
  split
  · next rest hours =>
    obtain ⟨a, b, rfl, tens, ones⟩ := twoDigits_eq_some _ _ _ _ hours
    refine absurd ?_ apart
    rw [List.dropWhile_cons_of_pos tens, List.dropWhile_cons_of_pos ones]
    rfl
  · rfl

theorem datetime?_eq_none (input : List Char) (undated : date? input = none) (untimed : time? input = none) :
    datetime? input = none := by
  unfold datetime?
  rw [undated, untimed]
  rfl

theorem value_of_number (depth : Nat) (first : Char) (rest : List Char) (found : Toml)
    (front : first = '-' ∨ first.isDigit = true) (undated : datetime? (first :: rest) = none)
    (numbered : number? ((first :: rest).takeWhile isNumberChar) = some found) :
    value depth (first :: rest) = some (found, (first :: rest).dropWhile isNumberChar) := by
  have other (mark : Char) (notMinus : mark ≠ '-') (notDigit : mark.isDigit = false) : first ≠ mark := by
    rintro rfl
    exact front.elim notMinus fun digit => Bool.false_ne_true (notDigit.symm.trans digit)
  unfold value
  split
  · next same => exact absurd (List.cons.inj same).1 (other '"' (by decide) rfl)
  · next same => exact absurd (List.cons.inj same).1 (other '\'' (by decide) rfl)
  · next same => exact absurd (List.cons.inj same).1 (other '[' (by decide) rfl)
  · next same => exact absurd (List.cons.inj same).1 (other '\x7b' (by decide) rfl)
  · next same => exact absurd (List.cons.inj same).1 (other 't' (by decide) rfl)
  · next same => exact absurd (List.cons.inj same).1 (other 'f' (by decide) rfl)
  · rw [undated, numbered]
    rfl

theorem dropWhile_integer (n : Int) (rest : List Char) :
    (((toString n).toList ++ '\n' :: rest).head?.any Char.isDigit = true →
      (((toString n).toList ++ '\n' :: rest).dropWhile Char.isDigit).head? ≠ some '-') ∧
    (((toString n).toList ++ '\n' :: rest).dropWhile Char.isDigit).head? ≠ some ':' := by
  rw [Json.toString_eq]
  split
  · exact ⟨nofun, fun same => absurd (Option.some.inj same) (by decide)⟩
  · have behind : (Nat.toDigits 10 n.natAbs ++ '\n' :: rest).dropWhile Char.isDigit = '\n' :: rest :=
      List.dropWhile_append_of_pos (Json.digits_toDigits n.natAbs).2
    rw [List.nil_append, behind]
    exact ⟨fun _ => by simp, by simp⟩

theorem integer_front (n : Int) : ∃ first more, (toString n).toList = first :: more ∧
    (first = '-' ∨ first.isDigit = true) ∧ ∀ c ∈ (toString n).toList, isNumberChar c = true := by
  have proper := Json.digits_toDigits n.natAbs
  have numeric (c : Char) (digit : c.isDigit = true) : isNumberChar c = true := by
    simp only [isNumberChar, Char.isAlphanum, digit, Bool.or_true, Bool.true_or]
  obtain ⟨first, more, front⟩ := List.exists_cons_of_ne_nil proper.1
  rw [Json.toString_eq]
  split
  · exact ⟨'-', _, rfl, .inl rfl, List.forall_mem_cons.2 ⟨rfl, fun c among => numeric c (proper.2 c among)⟩⟩
  · refine ⟨first, more, front, .inr (proper.2 first ?_), fun c among => numeric c (proper.2 c among)⟩
    rw [front]
    exact List.mem_cons_self

theorem value_integer (depth : Nat) (n : Int) (fits : fitsWord n = true) (rest : List Char) :
    value depth ((toString n).toList ++ '\n' :: rest) = some (.integer n, '\n' :: rest) := by
  obtain ⟨first, more, written, front, numeric⟩ := integer_front n
  obtain ⟨noDate, noTime⟩ := dropWhile_integer n rest
  have undated := datetime?_eq_none _ (date?_eq_none _ noDate) (time?_eq_none _ noTime)
  have taken : ((toString n).toList ++ '\n' :: rest).takeWhile isNumberChar = (toString n).toList := by
    rw [List.takeWhile_append_of_pos numeric]
    exact List.append_nil _
  have left : ((toString n).toList ++ '\n' :: rest).dropWhile isNumberChar = '\n' :: rest :=
    List.dropWhile_append_of_pos numeric
  have numbered := number?_integer n fits
  rw [← taken] at numbered
  have whole : (toString n).toList ++ '\n' :: rest = first :: (more ++ '\n' :: rest) := by
    rw [written, List.cons_append]
  rw [whole] at numbered undated left ⊢
  rw [value_of_number depth first _ (.integer n) front undated numbered, left]

theorem value_boolean (depth : Nat) (b : Bool) (rest : List Char) :
    value depth ((toString b).toList ++ rest) = some (.boolean b, rest) := by
  unfold value
  cases b with
  | true => rfl
  | false => rfl

/-! ### Texts -/

theorem textChars_front (text : List Char) :
    ∃ mark more, textChars text = mark :: more ∧ mark ∈ ['"', '\''] := by
  unfold textChars
  dsimp only
  split
  · exact ⟨'"', _, rfl, by decide⟩
  split
  · exact ⟨'\'', _, rfl, by decide⟩
  split
  · exact ⟨'"', _, rfl, by decide⟩
  split
  · exact ⟨'\'', _, rfl, by decide⟩
  split
  · exact ⟨'"', _, rfl, by decide⟩
  · exact ⟨'"', _, rfl, by decide⟩

theorem value_text (depth : Nat) (text : String) (rest : List Char) (unmarked : Unmarked rest) :
    value depth ((writeText text).toList ++ rest) = some (.text text, rest) := by
  have read := anyText_textChars text.toList rest unmarked
  rw [String.ofList_toList] at read
  obtain ⟨mark, more, front, isMark⟩ := textChars_front text.toList
  rw [writeText, String.toList_ofList]
  rw [front] at read ⊢
  simp only [List.mem_cons, List.not_mem_nil, or_false] at isMark
  obtain rfl | rfl := isMark
  · unfold value
    exact congrArg (Option.map _) read
  · unfold value
    exact congrArg (Option.map _) read

/-! ### Arrays of texts -/

theorem unmarked_cons (first : Char) (other : first ∉ ['"', '\'']) (rest : List Char) : Unmarked (first :: rest) := by
  rintro c ⟨⟩
  exact other

def itemLine (text : String) : List Char := [' ', ' ', ' ', ' '] ++ (writeText text).toList ++ [',', '\n']

theorem skipSpace_text (text : String) (rest : List Char) (before : List Char)
    (spaced : before = [] ∨ before = ['\n', ' ', ' ', ' ', ' ']) :
    skipSpace (before ++ ((writeText text).toList ++ rest)).length.succ (before ++ ((writeText text).toList ++ rest)) =
      some ((writeText text).toList ++ rest) := by
  obtain ⟨mark, more, front, isMark⟩ := textChars_front text.toList
  rw [writeText, String.toList_ofList, front]
  simp only [List.mem_cons, List.not_mem_nil, or_false] at isMark
  obtain rfl | rfl := isMark
  · obtain rfl | rfl := spaced <;> rfl
  · obtain rfl | rfl := spaced <;> rfl

section

variable (depth : Nat) (text : String) (before : List Char)
  (spaced : before = [] ∨ before = ['\n', ' ', ' ', ' ', ' ']) (steps : Nat) (rest : List Char)
include spaced

/-- An item of an array is read, and then what stands behind it decides: a comma, or the closing bracket. -/
theorem arrayItems_text (mark : Char) (isMark : mark = ',' ∨ mark = ']') :
    arrayItems (value depth) (steps + 1) (before ++ ((writeText text).toList ++ mark :: rest)) =
      if mark = ',' then
        (arrayItems (value depth) steps rest).map fun found => (.text text :: found.1, found.2)
      else some ([.text text], rest) := by
  have unmarked : Unmarked (mark :: rest) := by
    obtain rfl | rfl := isMark
    · exact unmarked_cons ',' (by decide) rest
    · exact unmarked_cons ']' (by decide) rest
  rw [arrayItems, skipSpace_text text _ before spaced]
  split
  · next same => cases same
  · next same =>
    obtain ⟨quote, others, front, isQuote⟩ := textChars_front text.toList
    rw [writeText, String.toList_ofList, front] at same
    rw [(List.cons.inj (Option.some.inj same)).1] at isQuote
    exact absurd isQuote (by decide)
  · next same =>
    cases same
    rw [value_text depth text _ unmarked]
    obtain rfl | rfl := isMark
    · have comma : skipSpace (',' :: rest).length.succ (',' :: rest) = some (',' :: rest) := rfl
      simp only [comma, if_true]
      cases arrayItems (value depth) steps rest <;> rfl
    · rfl

end

section

variable (depth : Nat) (rest : List Char)

theorem arrayItems_lines (texts : List String) (steps : Nat) (enough : texts.length < steps) :
    arrayItems (value depth) steps ('\n' :: (texts.flatMap itemLine ++ ']' :: rest)) =
      some (texts.map .text, rest) := by
  induction texts generalizing steps with
  | nil =>
    obtain ⟨left, rfl⟩ := Nat.exists_eq_add_of_lt enough
    rfl
  | cons text texts ih =>
    obtain ⟨left, rfl⟩ : ∃ left, steps = left + 1 := ⟨steps - 1, by omega⟩
    have line : '\n' :: ((text :: texts).flatMap itemLine ++ ']' :: rest) = ['\n', ' ', ' ', ' ', ' '] ++
        ((writeText text).toList ++ ',' :: '\n' :: (texts.flatMap itemLine ++ ']' :: rest)) := by
      simp only [List.flatMap_cons, itemLine, List.append_assoc, List.cons_append, List.nil_append]
    rw [line, arrayItems_text depth text _ (.inr rfl) left _ ',' (.inl rfl), if_pos rfl,
      ih left (by simpa using enough)]
    rfl

theorem toList_lines (texts : List String) :
    ("[\n" ++ String.join (texts.map fun item => "    " ++ writeText item ++ ",\n") ++ "]").toList ++ rest =
      '[' :: '\n' :: (texts.flatMap itemLine ++ ']' :: rest) := by
  have line (text : String) : ("    " ++ writeText text ++ ",\n").toList = itemLine text := by
    rw [String.toList_append, String.toList_append]
    rfl
  rw [String.toList_append, String.toList_append, String.toList_join, List.flatMap_map]
  simp only [line, List.append_assoc]
  rfl

theorem length_le_lines (texts : List String) : texts.length ≤ (texts.flatMap itemLine).length := by
  induction texts with
  | nil => exact Nat.le_refl 0
  | cons text texts ih =>
    have some_ : 0 < (itemLine text).length := Nat.succ_pos _
    rw [List.flatMap_cons, List.length_append, List.length_cons]
    omega

theorem value_texts (texts : List String) :
    value (depth + 1) ((writeTexts texts).toList ++ rest) = some (.array (texts.map .text), rest) := by
  have opened (input : List Char) (items : List Toml)
      (read : arrayItems (value depth) input.length.succ input = some (items, rest)) :
      value (depth + 1) ('[' :: input) = some (.array items, rest) := by
    unfold value
    exact congrArg (Option.map _) read
  cases texts with
  | nil => exact opened (']' :: rest) [] rfl
  | cons first texts =>
    cases texts with
    | nil =>
      have written : (writeTexts [first]).toList ++ rest =
          '[' :: ([] ++ ((writeText first).toList ++ ']' :: rest)) := by
        simp [writeTexts]
      rw [written]
      exact opened _ _ (arrayItems_text depth first [] (.inl rfl) _ rest ']' (.inr rfl))
    | cons second texts =>
      rw [writeTexts, toList_lines]
      · refine opened _ _ (arrayItems_lines depth rest _ _ ?_)
        have long := length_le_lines (first :: second :: texts)
        simp only [List.length_cons, List.length_append] at long ⊢
        omega
      · exact nofun
      · exact nofun

end

end ScriptSandbox.Toml
