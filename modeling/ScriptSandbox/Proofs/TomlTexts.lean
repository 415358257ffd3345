import Mathlib
import ScriptSandbox.Proofs.JsonReading
import ScriptSandbox.Toml.Reader
import ScriptSandbox.Toml.Writer

/-!
A text that was written as TOML is read as the text it was, in whatever form it was written. What stands between the
marks of a text is `Spelled` by its characters, each as it is or by an escape; in a text of several lines a few
marks may stand in a row, for only three of them end it.
-/

namespace ScriptSandbox.Toml

/-! ### Characters -/

/-- How a character that is no unescaped mark may stand in a text: as it is, as a line break if there may be
several lines, or by an escape if the text is basic. -/
inductive Stands (mark : Char) (basic severalLines : Bool) : List Char → Char → Prop
  | plain (c : Char) (plain : isPlain c = true) (other : c ≠ mark) (unescaped : basic = true → c ≠ '\\') :
    Stands mark basic severalLines [c] c
  | newline (several : severalLines = true) : Stands mark basic severalLines ['\n'] '\n'
  | escaped (code : List Char) (c : Char) (isBasic : basic = true)
    (read : ∀ rest, escape? (code ++ rest) = some (c, rest)) : Stands mark basic severalLines ('\\' :: code) c

theorem escape?_code (c : Char) (control : c.toNat < 0x20 ∨ c.toNat = 0x7F) (rest : List Char) :
    escape? ('u' :: (Text.hexPadded 4 c.toNat).toList.map Char.toUpper ++ rest) = some (c, rest) := by
  have each : ∀ n < 0x80, (List.replicate (4 - (Nat.toDigits 16 n).length) '0' ++ Nat.toDigits 16 n).map
        Char.toUpper = ['0', '0', (n / 16).digitChar.toUpper, (n % 16).digitChar.toUpper] ∧
      Json.hexUnit? '0' '0' (n / 16).digitChar.toUpper (n % 16).digitChar.toUpper = some n := by decide +kernel
  obtain ⟨written, read⟩ := each c.toNat (by omega)
  rw [Text.hexPadded, String.toList_ofList, written]
  simp only [List.cons_append, List.nil_append, escape?, read, Option.bind_eq_bind, Option.bind_some]
  rw [if_pos (by exact c.valid), Char.ofNat_toNat]

theorem isPlain_iff (c : Char) : isPlain c = true ↔ c = '\t' ∨ 0x20 ≤ c.toNat ∧ c.toNat ≠ 0x7F := by
  simp only [isPlain, Bool.or_eq_true, beq_iff_eq, Bool.and_eq_true, decide_eq_true_eq, bne_iff_ne, ne_eq,
    UInt32.le_iff_toNat_le, ← UInt32.toNat_inj]
  rfl

theorem control_iff (c : Char) : (c.val < 0x20 || c.val == 0x7F) = true ↔ c.toNat < 0x20 ∨ c.toNat = 0x7F := by
  simp only [Bool.or_eq_true, decide_eq_true_eq, beq_iff_eq, UInt32.lt_iff_toNat_lt, ← UInt32.toNat_inj]
  rfl

theorem newline?_apart (first : Char) (rest : List Char) (notBreak : first ≠ '\n') (notReturn : first ≠ '\r') :
    newline? (first :: rest) = none := by
  unfold newline?
  split
  · next same => exact absurd (List.cons.inj same).1 notBreak
  · next same => exact absurd (List.cons.inj same).1 notReturn
  · rfl

theorem stands_basicChar (severalLines : Bool) (c : Char) (other : c ≠ '"') :
    Stands '"' true severalLines (basicChar severalLines c) c := by
  unfold basicChar
  split
  · exact .escaped ['b'] _ rfl fun _ => rfl
  · exact .escaped ['t'] _ rfl fun _ => rfl
  · cases severalLines with
    | true => exact .newline rfl
    | false => exact .escaped ['n'] _ rfl fun _ => rfl
  · exact .escaped ['f'] _ rfl fun _ => rfl
  · exact .escaped ['r'] _ rfl fun _ => rfl
  · exact .escaped ['\\'] _ rfl fun _ => rfl
  · next notBackslash =>
    split
    · next control => exact .escaped _ c rfl (escape?_code c ((control_iff c).1 control))
    · next visible =>
      rw [control_iff, not_or, Nat.not_lt] at visible
      exact .plain c ((isPlain_iff c).2 (.inr visible)) other fun _ => notBackslash

section

variable (mark : Char) (basic severalLines : Bool) (isMark : mark ∈ ['"', '\''])
include isMark

theorem Stands.head (piece : List Char) (c : Char) (stands : Stands mark basic severalLines piece c) :
    ∃ first more, piece = first :: more ∧ first ≠ mark ∧ first ≠ '\r' ∧ (first = '\n' → c = '\n') := by
  have notReturn : isPlain '\r' = false := by decide
  have notBreak : isPlain '\n' = false := by decide
  have marks : mark ≠ '\n' ∧ mark ≠ '\\' := by
    constructor <;> (rintro rfl; revert isMark; decide)
  cases stands with
  | plain c plain other =>
    refine ⟨c, [], rfl, other, ?_, id⟩
    rintro rfl
    rw [notReturn] at plain
    cases plain
  | newline several => exact ⟨'\n', [], rfl, marks.1.symm, by decide, fun _ => rfl⟩
  | escaped code c isBasic read => exact ⟨'\\', code, rfl, marks.2.symm, by decide, fun same => absurd same (by decide)⟩

end

/-! ### Texts of several lines -/

/-- How a text stands between three marks on each side: each character as it may, with up to two marks before it
and at the end. -/
inductive Spelled (mark : Char) (basic : Bool) : List Char → List Char → Prop
  | marks (count : Nat) (few : count ≤ 2) : Spelled mark basic (List.replicate count mark) (List.replicate count mark)
  | step (count : Nat) (few : count ≤ 2) (piece : List Char) (c : Char) (stands : Stands mark basic true piece c)
    (body text : List Char) (spelled : Spelled mark basic body text) :
    Spelled mark basic (List.replicate count mark ++ (piece ++ body)) (List.replicate count mark ++ c :: text)

section

variable (mark : Char) (basic : Bool)

theorem takeWhile_marks (count : Nat) (rest : List Char) (ends : rest.head? ≠ some mark) :
    (List.replicate count mark ++ rest).takeWhile (· == mark) = List.replicate count mark := by
  have all : ∀ c ∈ List.replicate count mark, (c == mark) = true := by
    intro c among
    rw [List.eq_of_mem_replicate among, beq_self_eq_true]
  rw [List.takeWhile_append_of_pos all]
  cases rest with
  | nil => exact List.append_nil _
  | cons d rest =>
    have other : ¬ (d == mark) = true := by simpa using ends
    rw [List.takeWhile_cons_of_neg (p := (· == mark)) other, List.append_nil]

theorem longText_marks (count : Nat) (few : count ≤ 2) (rest : List Char) (ends : rest.head? ≠ some mark)
    (steps : Nat) (done : List Char) :
    longText mark basic (steps + count) done (List.replicate count mark ++ rest) =
      longText mark basic steps (List.replicate count mark ++ done) rest := by
  induction count generalizing done with
  | zero => rfl
  | succ count ih =>
    -- The reader counts the marks anew at each of them, so the induction takes them one by one.
    have run : 1 + ((List.replicate count mark ++ rest).takeWhile (· == mark)).length < 3 := by
      rw [takeWhile_marks mark count rest ends, List.length_replicate]
      omega
    rw [List.replicate_succ, List.cons_append, ← Nat.add_assoc, longText, if_pos rfl]
    simp only [if_pos run]
    rw [ih (by omega), List.append_cons, ← List.replicate_succ']
    rfl

theorem longText_ends (count : Nat) (few : count ≤ 2) (rest : List Char) (ends : rest.head? ≠ some mark)
    (steps : Nat) (done : List Char) :
    longText mark basic (steps + 1) done (List.replicate count mark ++ (List.replicate 3 mark ++ rest)) =
      some (String.ofList (done.reverse ++ List.replicate count mark), rest) := by
  have whole : List.replicate count mark ++ (List.replicate 3 mark ++ rest) =
      mark :: (List.replicate (count + 2) mark ++ rest) := by
    rw [← List.append_assoc, List.replicate_append_replicate, ← List.cons_append, ← List.replicate_succ]
  have run : 1 + ((List.replicate (count + 2) mark ++ rest).takeWhile (· == mark)).length = count + 3 := by
    rw [takeWhile_marks mark (count + 2) rest ends, List.length_replicate]
    omega
  have left : (mark :: (List.replicate (count + 2) mark ++ rest)).drop (count + 3) = rest := by
    rw [← List.cons_append, ← List.replicate_succ]
    exact List.drop_left' List.length_replicate
  rw [whole, longText, if_pos rfl]
  simp only [run, left]
  rw [if_neg (by omega), if_pos (by omega), List.reverse_append, List.reverse_replicate]
  rfl

variable (isMark : mark ∈ ['"', '\''])
include isMark

theorem longText_stands (piece : List Char) (c : Char) (stands : Stands mark basic true piece c) (rest : List Char)
    (steps : Nat) (done : List Char) :
    longText mark basic (steps + 1) done (piece ++ rest) = longText mark basic steps (c :: done) rest := by
  obtain ⟨first, more, begins, other, notReturn, isBreak⟩ := stands.head mark basic true isMark piece c
  cases stands with
  | plain c plain _ unescaped =>
    obtain ⟨rfl, -⟩ := List.cons.inj begins
    have noEscape : (decide (c = '\\') && basic) = false := by
      cases basic with
      | true => simpa using unescaped rfl
      | false => exact Bool.and_false _
    have noBreak : c ≠ '\n' := by
      rintro rfl
      exact absurd plain (by decide)
    rw [List.singleton_append, longText, if_neg other]
    simp only [noEscape, newline?_apart c rest noBreak notReturn, plain, if_true, Bool.false_eq_true, if_false]
  | newline several =>
    obtain ⟨rfl, -⟩ := List.cons.inj begins
    rw [List.singleton_append, longText, if_neg other]
    rfl
  | escaped code c isBasic read =>
    obtain ⟨rfl, -⟩ := List.cons.inj begins
    rw [List.cons_append, longText, if_neg other, isBasic]
    simp only [read rest]
    rfl

theorem longText_spelled (body text : List Char) (spelled : Spelled mark basic body text) (rest : List Char)
    (ends : rest.head? ≠ some mark) (steps : Nat) (enough : text.length < steps) (done : List Char) :
    longText mark basic steps done (body ++ (List.replicate 3 mark ++ rest)) =
      some (String.ofList (done.reverse ++ text), rest) := by
  induction spelled generalizing steps done with
  | marks count few =>
    obtain ⟨left, rfl⟩ := Nat.exists_eq_add_of_lt enough
    exact longText_ends mark basic count few rest ends _ done
  | step count few piece c stands body text _ ih =>
    rw [List.length_append, List.length_replicate, List.length_cons] at enough
    obtain ⟨left, rfl⟩ : ∃ left, steps = left + 1 + count := ⟨steps - 1 - count, by omega⟩
    obtain ⟨first, more, begins, other, -⟩ := stands.head mark basic true isMark piece c
    have apart : (piece ++ (body ++ (List.replicate 3 mark ++ rest))).head? ≠ some mark := by
      rw [begins]
      exact fun same => other (Option.some.inj same)
    rw [List.append_assoc, List.append_assoc, longText_marks mark basic count few _ apart,
      longText_stands mark basic isMark piece c stands, ih left (by omega), List.reverse_cons, List.reverse_append,
      List.reverse_replicate, List.append_assoc, List.append_assoc]
    rfl

theorem newline?_spelled (body text : List Char) (spelled : Spelled mark basic body text) (oneLine : '\n' ∉ text)
    (rest : List Char) : newline? (body ++ mark :: rest) = none := by
  have marks : mark ≠ '\n' ∧ mark ≠ '\r' := by
    constructor <;> (rintro rfl; revert isMark; decide)
  have marked (more : List Char) : newline? (mark :: more) = none := newline?_apart mark more marks.1 marks.2
  cases spelled with
  | marks count few => cases count <;> exact marked _
  | step count few piece c stands body text spelled =>
    cases count with
    | zero =>
      obtain ⟨first, more, rfl, -, notReturn, isBreak⟩ := stands.head mark basic true isMark piece c
      refine newline?_apart first _ (fun broken => oneLine ?_) notReturn
      rw [isBreak broken]
      exact List.mem_cons_self
    | succ count => exact marked _

theorem Spelled.length_le (body text : List Char) (spelled : Spelled mark basic body text) :
    text.length ≤ body.length := by
  induction spelled with
  | marks count few => exact Nat.le_refl _
  | step count few piece c stands body text _ ih =>
    obtain ⟨first, more, rfl, -⟩ := stands.head mark basic true isMark piece c
    simp only [List.length_append, List.length_cons]
    omega

/-- A text of several lines is read as it was spelled. A line break after the opening marks is written if the text
has one itself, so that none of the text is lost. -/
theorem longText_opened (body text : List Char) (spelled : Spelled mark basic body text) (rest : List Char)
    (ends : rest.head? ≠ some mark) (opening : List Char)
    (opened : opening = if text.contains '\n' then ['\n'] else []) (steps : Nat)
    (enough : (opening ++ body).length < steps) :
    longText mark basic steps [] (skipFirstBreak (opening ++ (body ++ (List.replicate 3 mark ++ rest)))) =
      some (String.ofList text, rest) := by
  have skipped : skipFirstBreak (opening ++ (body ++ (List.replicate 3 mark ++ rest))) =
      body ++ (List.replicate 3 mark ++ rest) := by
    rw [opened, skipFirstBreak]
    split
    · rfl
    · next oneLine =>
      rw [List.nil_append]
      have none_ : newline? (body ++ (List.replicate 3 mark ++ rest)) = none :=
        newline?_spelled mark basic isMark body text spelled (by simpa using oneLine) _
      rw [none_]
      rfl
  have shorter := spelled.length_le mark basic isMark body text
  rw [List.length_append] at enough
  rw [skipped, longText_spelled mark basic isMark body text spelled rest ends steps (by omega)]
  rfl

end

theorem spelled_basicBody (text : List Char) (run : Nat) (few : run ≤ 2) :
    Spelled '"' true (List.replicate run '"' ++ basicBody true 2 run text) (List.replicate run '"' ++ text) := by
  -- The marks of the run at hand are carried along until a character, an escape or the end closes it.
  induction text generalizing run with
  | nil =>
    rw [basicBody, List.append_nil]
    exact .marks run few
  | cons c text ih =>
    rw [basicBody]
    split
    · next same =>
      obtain rfl := same
      split
      · next room =>
        rw [List.append_cons _ _ text, List.append_cons, ← List.replicate_succ']
        exact ih (run + 1) room
      · exact .step run few ['\\', '"'] '"' (.escaped ['"'] '"' rfl fun _ => rfl) _ text (ih 0 (Nat.zero_le 2))
    · next other => exact .step run few _ c (stands_basicChar true c other) _ text (ih 0 (Nat.zero_le 2))

def runStep (mark : Char) : Nat × Nat → Char → Nat × Nat
  | (longest, run), c => if c = mark then (max longest (run + 1), run + 1) else (longest, 0)

theorem le_runs (mark : Char) (text : List Char) (longest run : Nat) :
    longest ≤ (text.foldl (runStep mark) (longest, run)).1 := by
  induction text generalizing longest run with
  | nil => exact Nat.le_refl _
  | cons c text ih =>
    rw [List.foldl_cons, runStep]
    split
    · exact Nat.le_trans (Nat.le_max_left _ _) (ih _ _)
    · exact ih _ _

/-- A text of visible characters and line breaks, with no more than two marks in a row, spells itself. -/
theorem spelled_literal (text : List Char) (visible : ∀ c ∈ text, c = '\n' ∨ isPlain c = true) (longest run : Nat)
    (few : run ≤ 2) (short : (text.foldl (runStep '\'') (longest, run)).1 ≤ 2) :
    Spelled '\'' false (List.replicate run '\'' ++ text) (List.replicate run '\'' ++ text) := by
  induction text generalizing longest run with
  | nil =>
    rw [List.append_nil]
    exact .marks run few
  | cons c text ih =>
    have later : ∀ c ∈ text, c = '\n' ∨ isPlain c = true := fun d among => visible d (List.mem_cons_of_mem c among)
    rw [List.foldl_cons, runStep] at short
    split at short
    · next same =>
      obtain rfl := same
      have next_ := Nat.le_trans (Nat.le_trans (Nat.le_max_right _ _) (le_runs '\'' text _ (run + 1))) short
      rw [List.append_cons, ← List.replicate_succ']
      exact ih later _ (run + 1) next_ short
    · next other =>
      have stands : Stands '\'' false true [c] c := by
        obtain rfl | plain := visible c List.mem_cons_self
        · exact .newline rfl
        · exact .plain c plain other nofun
      exact .step run few [c] c stands text text (ih later longest 0 (Nat.zero_le 2) short)

/-! ### Texts of one line -/

theorem basicText_stands (piece : List Char) (c : Char) (stands : Stands '"' true false piece c) (rest : List Char)
    (steps : Nat) (done : List Char) :
    basicText (steps + 1) done (piece ++ rest) = basicText steps (c :: done) rest := by
  cases stands with
  | plain c plain other unescaped =>
    rw [List.singleton_append, basicText, if_pos plain]
    · exact fun same => other same
    · exact fun same => unescaped rfl same
  | newline several => cases several
  | escaped code c isBasic read =>
    rw [List.cons_append, basicText]
    simp only [read rest]

theorem basicText_body (text : List Char) (rest : List Char) (steps : Nat) (enough : text.length < steps)
    (done : List Char) (run : Nat) :
    basicText steps done (basicBody false 0 run text ++ '"' :: rest) =
      some (String.ofList (done.reverse ++ text), rest) := by
  induction text generalizing steps done run with
  | nil =>
    obtain ⟨left, rfl⟩ := Nat.exists_eq_add_of_lt enough
    rw [List.append_nil]
    rfl
  | cons c text ih =>
    obtain ⟨left, rfl⟩ := Nat.exists_eq_add_of_lt enough
    have whole : done.reverse ++ c :: text = (c :: done).reverse ++ text := by
      rw [List.reverse_cons, List.append_cons]
    rw [basicBody, whole]
    split
    · next same =>
      obtain rfl := same
      rw [if_neg (Nat.not_lt_zero run)]
      exact (basicText_stands ['\\', '"'] '"' (.escaped ['"'] '"' rfl fun _ => rfl) _ _ done).trans
        (ih _ (by simp only [List.length_cons]; omega) _ 0)
    · next other =>
      rw [List.append_assoc, basicText_stands _ c (stands_basicChar false c other)]
      exact ih _ (by simp only [List.length_cons]; omega) _ 0

theorem length_basicBody (text : List Char) (run : Nat) : text.length ≤ (basicBody false 0 run text).length := by
  induction text generalizing run with
  | nil => exact Nat.zero_le _
  | cons c text ih =>
    rw [basicBody]
    split
    · rw [if_neg (Nat.not_lt_zero run)]
      have later := ih 0
      simp only [List.length_cons]
      omega
    · next other =>
      obtain ⟨first, more, begins, -⟩ := (stands_basicChar false c other).head '"' true false (by decide)
      have later := ih 0
      rw [begins]
      simp only [List.length_append, List.length_cons]
      omega

theorem literalText_body (text : List Char) (visible : ∀ c ∈ text, isPlain c = true) (noMark : '\'' ∉ text)
    (rest : List Char) (done : List Char) :
    literalText done (text ++ '\'' :: rest) = some (String.ofList (done.reverse ++ text), rest) := by
  induction text generalizing done with
  | nil =>
    rw [List.append_nil]
    rfl
  | cons c text ih =>
    have other : c ≠ '\'' := fun same => noMark (same ▸ List.mem_cons_self)
    rw [List.cons_append, literalText, if_pos (visible c List.mem_cons_self),
      ih (fun d among => visible d (List.mem_cons_of_mem c among)) (fun among => noMark (List.mem_cons_of_mem c among)),
      List.reverse_cons, ← List.append_cons]
    exact fun same => other same

/-! ### Texts in any form -/

def Unmarked (rest : List Char) : Prop := ∀ c, rest.head? = some c → c ∉ ['"', '\'']

theorem Unmarked.head (rest : List Char) (unmarked : Unmarked rest) (mark : Char) (isMark : mark ∈ ['"', '\'']) :
    rest.head? ≠ some mark := fun same => unmarked mark same isMark

theorem anyText_short (mark : Char) (input : List Char) (single : ∀ more, input ≠ mark :: mark :: more) :
    anyText (mark :: input) = shortText (mark :: input) := by
  unfold anyText
  split
  · next same =>
    obtain ⟨rfl, rfl⟩ := List.cons.inj same
    exact absurd rfl (single _)
  · next same =>
    obtain ⟨rfl, rfl⟩ := List.cons.inj same
    exact absurd rfl (single _)
  · rfl

theorem anyText_basic (text rest : List Char) (unmarked : Unmarked rest) :
    anyText ('"' :: (basicBody false 0 0 text ++ '"' :: rest)) = some (String.ofList text, rest) := by
  have long := length_basicBody text 0
  have read : shortText ('"' :: (basicBody false 0 0 text ++ '"' :: rest)) = some (String.ofList text, rest) :=
    basicText_body text rest _ (by rw [List.length_append]; omega) [] 0
  rw [← read]
  refine anyText_short '"' _ fun more same => ?_
  cases text with
  | nil =>
    have next_ := (List.cons.inj same).2
    exact unmarked '"' (by rw [next_]; rfl) List.mem_cons_self
  | cons c text =>
    rw [basicBody] at same
    split at same
    · exact absurd (List.cons.inj same).1 (by decide)
    · next other =>
      obtain ⟨first, rest', begins, notMark, -⟩ := (stands_basicChar false c other).head '"' true false (by decide)
      rw [begins] at same
      exact notMark (List.cons.inj same).1

theorem anyText_literal (text rest : List Char) (some_ : text ≠ []) (visible : ∀ c ∈ text, isPlain c = true)
    (noMark : '\'' ∉ text) : anyText ('\'' :: (text ++ '\'' :: rest)) = some (String.ofList text, rest) := by
  have read : shortText ('\'' :: (text ++ '\'' :: rest)) = some (String.ofList text, rest) :=
    literalText_body text visible noMark rest []
  rw [← read]
  refine anyText_short '\'' _ fun more same => ?_
  cases text with
  | nil => exact some_ rfl
  | cons c text => exact noMark ((List.cons.inj same).1 ▸ List.mem_cons_self)

def fenced (mark : Char) (opening body rest : List Char) : List Char :=
  mark :: mark :: mark :: (opening ++ (body ++ (List.replicate 3 mark ++ rest)))

theorem anyText_fenced (mark : Char) (isMark : mark ∈ ['"', '\'']) (body text : List Char)
    (spelled : Spelled mark (mark == '"') body text) (rest : List Char) (unmarked : Unmarked rest) :
    anyText (fenced mark (if text.contains '\n' then ['\n'] else []) body rest) = some (String.ofList text, rest) := by
  have ends := unmarked.head rest mark isMark
  simp only [List.mem_cons, List.not_mem_nil, or_false] at isMark
  obtain rfl | rfl := isMark
  · refine longText_opened '"' true (by decide) body text spelled rest ends _ rfl _ ?_
    simp only [List.length_append]
    omega
  · refine longText_opened '\'' false (by decide) body text spelled rest ends _ rfl _ ?_
    simp only [List.length_append]
    omega

theorem visible_of_traits (text : List Char) (noCodes : (TextTraits.of text).needsCodes = false) :
    ∀ c ∈ text, c = '\n' ∨ isPlain c = true := by
  intro c among
  have harmless := List.any_eq_false.1 noCodes c among
  rw [isPlain_iff]
  by_cases tab : c = '\t'
  · exact .inr (.inl tab)
  by_cases broken : c = '\n'
  · exact .inl broken
  refine .inr (.inr ?_)
  have visible : ¬ (c.val < 0x20 || c.val == 0x7F) = true := by simpa [tab, broken] using harmless
  rwa [control_iff, not_or, Nat.not_lt] at visible

theorem runs_pos (mark : Char) (text : List Char) (among : mark ∈ text) (longest run : Nat) :
    0 < (text.foldl (runStep mark) (longest, run)).1 := by
  induction text generalizing longest run with
  | nil => cases among
  | cons c text ih =>
    rw [List.foldl_cons, runStep]
    split
    · exact Nat.lt_of_lt_of_le (Nat.lt_of_lt_of_le (Nat.succ_pos run) (Nat.le_max_right _ _)) (le_runs mark text _ _)
    · next other => exact ih ((List.mem_cons.1 among).resolve_left (Ne.symm other)) _ _

/-- Whatever characters a text is made of, it is read as it was written. -/
theorem anyText_textChars (text rest : List Char) (unmarked : Unmarked rest) :
    anyText (textChars text ++ rest) = some (String.ofList text, rest) := by
  have short : anyText ('"' :: (basicBody false 0 0 text ++ ['"']) ++ rest) = some (String.ofList text, rest) := by
    rw [List.cons_append, List.append_assoc]
    exact anyText_basic text rest unmarked
  have long : anyText (['"', '"', '"'] ++ (if text.contains '\n' then ['\n'] else []) ++ basicBody true 2 0 text ++
      ['"', '"', '"'] ++ rest) = some (String.ofList text, rest) := by
    rw [List.append_assoc, List.append_assoc, List.append_assoc]
    exact anyText_fenced '"' (by decide) _ text (spelled_basicBody text 0 (Nat.zero_le 2)) rest unmarked
  unfold textChars
  dsimp only
  split
  · exact short
  next notShort =>
  split
  · next literal =>
    simp only [Bool.and_eq_true, Bool.not_eq_true', beq_iff_eq] at literal
    obtain ⟨⟨noCodes, noMark⟩, oneLine⟩ := literal
    have visible (c : Char) (among : c ∈ text) : isPlain c = true := by
      refine (visible_of_traits text noCodes c among).resolve_left ?_
      rintro rfl
      exact Bool.false_ne_true (oneLine.symm.trans (List.contains_iff_mem.2 among))
    rw [List.cons_append, List.append_assoc]
    refine anyText_literal text rest ?_ visible fun among => ?_
    · rintro rfl
      exact notShort rfl
    · exact Nat.ne_of_gt (runs_pos '\'' text among 0 0) noMark
  split
  · exact long
  split
  · next literal =>
    simp only [Bool.and_eq_true, Bool.not_eq_true', decide_eq_true_eq] at literal
    rw [List.append_assoc, List.append_assoc, List.append_assoc]
    exact anyText_fenced '\'' (by decide) text text
      (spelled_literal text (visible_of_traits text literal.1) 0 0 (Nat.zero_le 2) literal.2) rest unmarked
  split
  · next broken =>
    have opened : text.contains '\n' = true := broken
    rwa [if_pos opened] at long
  · exact short

example : anyText (textChars "\"'\\\n".toList ++ [',']) = some ("\"'\\\n", [',']) := by
  decide +kernel

end ScriptSandbox.Toml
