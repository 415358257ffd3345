import ScriptSandbox.Proofs.FloatText
import ScriptSandbox.Proofs.JsonAcceptance

/-!
What the writer of JSON writes is a document, on one line and spread over lines: every value spells itself, but
for its floating-point numbers, of which their texts are read again. So the reader reads it back.
-/

namespace ScriptSandbox.Json

/-! ### Texts -/

theorem hexPadded_control (n : Nat) (control : n < 0x20) :
    (Text.hexPadded 4 n).toList = ['0', '0', (n / 16).digitChar, (n % 16).digitChar] ∧
      HexDigit (n / 16).digitChar (n / 16) ∧ HexDigit (n % 16).digitChar (n % 16) := by
  have written : ∀ n, n < 0x20 → List.replicate (4 - (Nat.toDigits 16 n).length) '0' ++ Nat.toDigits 16 n =
      ['0', '0', (n / 16).digitChar, (n % 16).digitChar] := by decide
  have digit : ∀ n, n < 16 → HexDigit n.digitChar n := by decide
  refine ⟨?_, digit (n / 16) (by omega), digit (n % 16) (by omega)⟩
  rw [Text.hexPadded, String.toList_ofList]
  exact written n control

theorem letter_charText (c : Char) :
    ∃ letter : Letter, letter.Spells (charText c) ∧ letter.units = Units.ofCode c.toNat := by
  have escape (mark : Char) (short : (mark, c) ∈ shortEscapes) :
      ∃ letter : Letter, letter.Spells ['\\', mark] ∧ letter.units = Units.ofCode c.toNat :=
    ⟨.char c, .short c mark short, rfl⟩
  unfold charText
  split
  · exact escape '"' (by simp [shortEscapes])
  · exact escape '\\' (by simp [shortEscapes])
  · exact escape 'b' (by simp [shortEscapes])
  · exact escape 'f' (by simp [shortEscapes])
  · exact escape 'n' (by simp [shortEscapes])
  · exact escape 'r' (by simp [shortEscapes])
  · exact escape 't' (by simp [shortEscapes])
  · next notQuote notSlash _ _ _ _ _ =>
    split
    · next control =>
      have small : c.toNat < 0x20 := control
      obtain ⟨written, third, fourth⟩ := hexPadded_control c.toNat small
      have zero : HexDigit '0' 0 := by decide
      have whole : (c.toNat.toUInt16).toNat = ((0 * 16 + 0) * 16 + c.toNat / 16) * 16 + c.toNat % 16 := by
        have most : UInt16.size = 0x10000 := rfl
        rw [Nat.toUInt16_eq, UInt16.toNat_ofNat_of_lt' (by omega)]
        omega
      rw [written]
      refine ⟨.unit c.toNat.toUInt16, .long _ _ _ _ _ 0 0 _ _ zero zero third fourth whole, ?_⟩
      rw [Units.ofCode, if_pos (by omega)]
      rfl
    · next printable => exact ⟨.char c, .plain c (Nat.le_of_not_lt printable) notQuote notSlash, rfl⟩

theorem spells_chars (chars : List Char) : SpellsChars chars (chars.flatMap charText) := by
  induction chars with
  | nil => exact spellsChars_nil
  | cons c chars ih =>
    obtain ⟨letter, spelled, units⟩ := letter_charText c
    have whole := spellsChars_append [c] chars _ [letter] [charText c] (.cons spelled .nil)
      (by rw [unitsOf, List.flatMap_singleton, List.flatMap_singleton, units]) ih
    rwa [List.flatten_singleton] at whole

theorem spells_quotedText (value : String) : SpellsText value (quotedText value) :=
  ⟨_, spells_chars value.toList, rfl⟩

/-! ### Numbers -/

theorem toDigits_zero_front (n : Nat) (zero : (Nat.toDigits 10 n).head? = some '0') : Nat.toDigits 10 n = ['0'] := by
  cases n with
  | zero => rfl
  | succ n =>
    obtain ⟨c, rest, front, nonzero⟩ := Decimal.toDigits_head (n + 1) (Nat.succ_pos n)
    rw [front] at zero
    exact absurd (Option.some.inj zero) nonzero

theorem spells_digits (negative : Bool) (size : Nat) :
    Numeral.Spells ⟨negative, Nat.toDigits 10 size, none, none⟩
      ((if negative then ['-'] else []) ++ Nat.toDigits 10 size) := by
  have spelled := @Numeral.Spells.parts ⟨negative, Nat.toDigits 10 size, none, none⟩ [] [] (digits_toDigits size)
    (toDigits_zero_front size) .none .none
  rwa [List.append_nil, List.append_nil] at spelled

theorem coefficient_digits (negative : Bool) (size : Nat) :
    Numeral.coefficient ⟨negative, Nat.toDigits 10 size, none, none⟩ = size := by
  rw [Numeral.coefficient, Option.getD_none, List.append_nil, Decimal.ofDigits_toDigits]

theorem spells_integer (n : Int) (least : -0x8000000000000000 ≤ n) (greatest : n < 0x10000000000000000) :
    SpellsInteger n (toString n).toList := by
  rw [Int.toString_eq_repr, Int.repr_eq_if]
  split
  · next positive =>
    rw [Nat.repr_eq_ofList_toDigits, String.toList_ofList]
    refine ⟨_, spells_digits false n.toNat, ⟨rfl, rfl⟩, ?_,
      fun minus => absurd minus Bool.false_ne_true, least, greatest⟩
    rw [coefficient_digits, if_neg Bool.false_ne_true, Int.toNat_of_nonneg positive]
  · next negative =>
    rw [Nat.repr_eq_ofList_toDigits, String.toList_append, String.toList_ofList, String.toList_ofList]
    refine ⟨_, spells_digits true (-n).toNat, ⟨rfl, rfl⟩, ?_, fun _ => by omega, least, greatest⟩
    rw [coefficient_digits, if_pos rfl, Int.toNat_of_nonneg (by omega), Int.neg_neg]

/-! ### Values -/

mutual

/-- A value that can be written and read where so many levels may be opened: its arrays and objects nest
no deeper, its numbers are integers of 64 bits or finite. -/
def Plain : Json → (depth : Nat) → Prop
  | .null, _ => True
  | .boolean _, _ => True
  | .integer n, _ => -0x8000000000000000 ≤ n ∧ n < 0x10000000000000000
  | .float x, _ => x.isFinite = true
  | .text _, _ => True
  | .array items, depth => 0 < depth ∧ PlainItems items (depth - 1)
  | .object entries, depth => 0 < depth ∧ PlainEntries entries (depth - 1)

def PlainItems : List Json → (depth : Nat) → Prop
  | [], _ => True
  | item :: rest, depth => item.Plain depth ∧ PlainItems rest depth

def PlainEntries : List (String × Json) → (depth : Nat) → Prop
  | [], _ => True
  | (_, value) :: rest, depth => value.Plain depth ∧ PlainEntries rest depth

end

def rereadFloat (x : Float) : Json :=
  match number (floatText x).toList with
  | some (value, _) => value
  | none => .null

mutual

def reread : Json → Json
  | .null => .null
  | .boolean value => .boolean value
  | .integer value => .integer value
  | .float value => rereadFloat value
  | .text value => .text value
  | .array items => .array (rereadItems items)
  | .object entries => .object (rereadEntries entries)

def rereadItems : List Json → List Json
  | [] => []
  | item :: rest => item.reread :: rereadItems rest

def rereadEntries : List (String × Json) → List (String × Json)
  | [] => []
  | (key, value) :: rest => (key, value.reread) :: rereadEntries rest

end

mutual

def Floatless : Json → Prop
  | .null => True
  | .boolean _ => True
  | .integer _ => True
  | .float _ => False
  | .text _ => True
  | .array items => FloatlessItems items
  | .object entries => FloatlessEntries entries

def FloatlessItems : List Json → Prop
  | [] => True
  | item :: rest => item.Floatless ∧ FloatlessItems rest

def FloatlessEntries : List (String × Json) → Prop
  | [] => True
  | (_, value) :: rest => value.Floatless ∧ FloatlessEntries rest

end

mutual

theorem reread_of_floatless : ∀ value : Json, value.Floatless → value.reread = value
  | .null, _ => rfl
  | .boolean _, _ => rfl
  | .integer _, _ => rfl
  | .float _, floatless => floatless.elim
  | .text _, _ => rfl
  | .array items, floatless => congrArg Json.array (rereadItems_of_floatless items floatless)
  | .object entries, floatless => congrArg Json.object (rereadEntries_of_floatless entries floatless)

theorem rereadItems_of_floatless : ∀ items : List Json, FloatlessItems items → rereadItems items = items
  | [], _ => rfl
  | item :: rest, floatless => by
    rw [rereadItems, reread_of_floatless item floatless.1, rereadItems_of_floatless rest floatless.2]

theorem rereadEntries_of_floatless : ∀ entries : List (String × Json), FloatlessEntries entries →
    rereadEntries entries = entries
  | [], _ => rfl
  | (key, value) :: rest, floatless => by
    rw [rereadEntries, reread_of_floatless value floatless.1, rereadEntries_of_floatless rest floatless.2]

end

theorem rereadFloat_spec (x : Float) (finite : x.isFinite = true) :
    ∃ y, rereadFloat x = .float y ∧ SpellsFloat y (floatText x).toList := by
  obtain ⟨y, spelled⟩ := spells_floatText x finite
  have read := number_float y _ [] spelled delimited_nil
  rw [List.append_nil] at read
  exact ⟨y, by rw [rereadFloat, read], spelled⟩

theorem plainItems_iff (items : List Json) (depth : Nat) :
    PlainItems items depth ↔ ∀ item ∈ items, item.Plain depth := by
  induction items with
  | nil => simp [PlainItems]
  | cons item rest ih => rw [PlainItems, ih, List.forall_mem_cons]

theorem plainEntries_iff (entries : List (String × Json)) (depth : Nat) :
    PlainEntries entries depth ↔ ∀ entry ∈ entries, entry.2.Plain depth := by
  induction entries with
  | nil => simp [PlainEntries]
  | cons entry rest ih => rw [PlainEntries, ih, List.forall_mem_cons]

theorem floatlessItems_iff (items : List Json) : FloatlessItems items ↔ ∀ item ∈ items, item.Floatless := by
  induction items with
  | nil => simp [FloatlessItems]
  | cons item rest ih => rw [FloatlessItems, ih, List.forall_mem_cons]

theorem floatlessEntries_iff (entries : List (String × Json)) :
    FloatlessEntries entries ↔ ∀ entry ∈ entries, entry.2.Floatless := by
  induction entries with
  | nil => simp [FloatlessEntries]
  | cons entry rest ih => rw [FloatlessEntries, ih, List.forall_mem_cons]

theorem rereadItems_eq (items : List Json) : rereadItems items = items.map reread := by
  induction items with
  | nil => rfl
  | cons item rest ih => rw [rereadItems, ih, List.map_cons]

theorem rereadEntries_eq (entries : List (String × Json)) :
    rereadEntries entries = entries.map fun entry => (entry.1, entry.2.reread) := by
  induction entries with
  | nil => rfl
  | cons entry rest ih => rw [rereadEntries, ih, List.map_cons]

theorem intercalate_map (text : α → List Char) (first next : α) (rest : List α) :
    [','].intercalate ((first :: next :: rest).map text) =
      text first ++ ',' :: [','].intercalate ((next :: rest).map text) := by
  rw [List.map_cons, List.map_cons, List.intercalate_cons_cons, List.append_assoc]
  rfl

theorem compactItems_eq (items : List Json) : compactItems items = [','].intercalate (items.map compactChars) := by
  induction items with
  | nil => rfl
  | cons item rest ih =>
    cases rest with
    | nil => exact List.intercalate_singleton.symm
    | cons next rest => rw [compactItems, ih, intercalate_map]

theorem prettyItems_eq (level : Nat) (items : List Json) :
    prettyItems level items = [','].intercalate (items.map fun item => newLine level ++ prettyChars level item) := by
  induction items with
  | nil => rfl
  | cons item rest ih =>
    cases rest with
    | nil => exact List.intercalate_singleton.symm
    | cons next rest => rw [prettyItems, ih, intercalate_map]

def entryChars (blanks : List Char) (text : Json → List Char) (entry : String × Json) : List Char :=
  quotedText entry.1 ++ ':' :: (blanks ++ text entry.2)

theorem compactEntries_eq (entries : List (String × Json)) :
    compactEntries entries = [','].intercalate (entries.map (entryChars [] compactChars)) := by
  induction entries with
  | nil => rfl
  | cons entry rest ih =>
    cases rest with
    | nil => exact List.intercalate_singleton.symm
    | cons next rest =>
      rw [compactEntries, ih, intercalate_map, entryChars]
      simp only [List.append_assoc, List.cons_append, List.nil_append]

theorem prettyEntries_eq (level : Nat) (entries : List (String × Json)) :
    prettyEntries level entries =
      [','].intercalate (entries.map fun entry => newLine level ++ entryChars [' '] (prettyChars level) entry) := by
  have member (entry : String × Json) : newLine level ++ quotedText entry.1 ++ [':', ' '] ++ prettyChars level entry.2 =
      newLine level ++ entryChars [' '] (prettyChars level) entry := by
    rw [entryChars]
    simp only [List.append_assoc, List.cons_append, List.nil_append]
  induction entries with
  | nil => rfl
  | cons entry rest ih =>
    cases rest with
    | nil => rw [prettyEntries, List.map_singleton, List.intercalate_singleton, member]
    | cons next rest => rw [prettyEntries, ih, intercalate_map, member]

theorem blanks_nil : Blanks [] := by
  rintro c ⟨⟩

theorem blanks_newLine (level : Nat) : Blanks (newLine level) := by
  intro c among
  obtain rfl | among := List.mem_cons.1 among
  · simp
  · rw [List.eq_of_mem_replicate among]
    exact List.mem_cons_self

theorem spaced_of (part : α → List Char → Prop) (item : α) (text : List Char) (spelled : part item text) :
    Spaced part item text := ⟨[], text, [], blanks_nil, spelled, blanks_nil, (List.append_nil text).symm⟩

theorem listed_intercalate (part : β → List Char → Prop) (meaning : α → β) (text : α → List Char)
    (before after : List Char) (blank : Blanks before) (blank' : Blanks after) (first : α) (rest : List α)
    (each : ∀ item ∈ first :: rest, part (meaning item) (text item)) :
    Listed part ((first :: rest).map meaning)
      ([','].intercalate ((first :: rest).map fun item => before ++ text item) ++ after) := by
  have here := each first List.mem_cons_self
  induction rest generalizing first with
  | nil =>
    exact .last _ _
      ⟨before, text first, after, blank, here, blank', by rw [List.map_singleton, List.intercalate_singleton]⟩
  | cons next rest ih =>
    have later := fun item among => each item (List.mem_cons_of_mem _ among)
    have listed := @Listed.more _ part _ _ _ _
      ⟨before, text first, [], blank, here, blanks_nil, (List.append_nil _).symm⟩
        (ih next later (later next List.mem_cons_self))
    rw [List.map_cons, intercalate_map, List.append_assoc]
    exact listed

theorem enclosed_intercalate (opening closing : Char) (part : β → List Char → Prop)
    (meaning : α → β) (text : α → List Char) (items : List α)
    (each : ∀ item ∈ items, part (meaning item) (text item)) :
    Enclosed opening closing part (items.map meaning)
      (opening :: ([','].intercalate (items.map text) ++ [closing])) := by
  cases items with
  | nil => exact .none [] blanks_nil
  | cons first rest =>
    have listed := listed_intercalate part meaning text [] [] blanks_nil blanks_nil first rest each
    rw [List.append_nil] at listed
    exact .some _ _ listed

theorem spells_entry (depth : Nat) (text : Json → List Char) (blanks : List Char) (blank : Blanks blanks)
    (entry : String × Json) (spelled : Spells depth entry.2.reread (text entry.2)) :
    SpellsMember (Spells depth) (entry.1, entry.2.reread) (entryChars blanks text entry) :=
  ⟨quotedText entry.1, [], blanks, _, spells_quotedText entry.1, blanks_nil, blank,
    spelled, by rw [List.append_nil]; rfl⟩

theorem spells_written (depth : Nat) (value : Json) (plain : value.Plain depth) :
    Spells depth value.reread value.compactChars ∧ ∀ level, Spells depth value.reread (value.prettyChars level) := by
  induction depth using Nat.strongRecOn generalizing value with
  | ind depth ih =>
  cases value with
  | null =>
    have spelled : Spells depth .null ['n', 'u', 'l', 'l'] := by rw [Spells]
    exact ⟨spelled, fun _ => spelled⟩
  | boolean b =>
    cases b with
    | true =>
      have spelled : Spells depth (.boolean true) ['t', 'r', 'u', 'e'] := by rw [Spells]
      exact ⟨spelled, fun _ => spelled⟩
    | false =>
      have spelled : Spells depth (.boolean false) ['f', 'a', 'l', 's', 'e'] := by rw [Spells]
      exact ⟨spelled, fun _ => spelled⟩
  | integer n =>
    have spelled : Spells depth (.integer n) (toString n).toList := by
      rw [Spells]
      exact spells_integer n plain.1 plain.2
    exact ⟨spelled, fun _ => spelled⟩
  | float x =>
    have spelled : Spells depth (rereadFloat x) (floatText x).toList := by
      obtain ⟨y, reads, spelled⟩ := rereadFloat_spec x plain
      rw [reads, Spells]
      exact spelled
    exact ⟨spelled, fun _ => spelled⟩
  | text s =>
    have spelled : Spells depth (.text s) (quotedText s) := by
      rw [Spells]
      exact spells_quotedText s
    exact ⟨spelled, fun _ => spelled⟩
  | array items =>
    obtain ⟨smaller, rfl⟩ := Nat.exists_eq_add_one.2 plain.1
    have inside := fun item among =>
      ih smaller (Nat.lt_succ_self _) item ((plainItems_iff items smaller).1 plain.2 item among)
    rw [reread, rereadItems_eq, compactChars, compactItems_eq]
    refine ⟨enclosed_intercalate '[' ']' _ reread compactChars items fun item among =>
      (inside item among).1, fun level => ?_⟩
    cases items with
    | nil => exact .none [] blanks_nil
    | cons first rest =>
      rw [prettyChars, prettyItems_eq]
      exact .some _ _ (listed_intercalate _ reread _ _ _ (blanks_newLine _) (blanks_newLine level) first rest
        fun item among => (inside item among).2 (level + 1))
  | object entries =>
    obtain ⟨smaller, rfl⟩ := Nat.exists_eq_add_one.2 plain.1
    have inside := fun entry among =>
      ih smaller (Nat.lt_succ_self _) entry.2 ((plainEntries_iff entries smaller).1 plain.2 entry among)
    rw [reread, rereadEntries_eq, compactChars, compactEntries_eq]
    refine ⟨enclosed_intercalate '\x7b' '\x7d' _ _ (entryChars [] compactChars) entries fun entry among =>
      spells_entry smaller compactChars [] blanks_nil entry (inside entry among).1, fun level => ?_⟩
    cases entries with
    | nil => exact .none [] blanks_nil
    | cons first rest =>
      rw [prettyChars, prettyEntries_eq]
      exact .some _ _ (listed_intercalate _ _ _ _ _ (blanks_newLine _) (blanks_newLine level) first rest
        fun entry among => spells_entry smaller (prettyChars (level + 1)) [' '] (by simp [Blanks]) entry
          ((inside entry among).2 (level + 1)))

theorem document_compact (document : Json) (plain : document.Plain maxDepth) :
    document.reread.Document document.compact := by
  rw [Document, compact, String.toList_ofList]
  exact spaced_of _ _ _ (spells_written maxDepth document plain).1

theorem document_pretty (document : Json) (plain : document.Plain maxDepth) :
    document.reread.Document document.pretty := by
  rw [Document, pretty, String.toList_ofList]
  exact spaced_of _ _ _ ((spells_written maxDepth document plain).2 0)

theorem parse_compact (document : Json) (plain : document.Plain maxDepth) :
    parse? document.compact = some document.reread.tidy :=
  (parse?_eq_some_iff _ _).2 ⟨_, document_compact document plain, rfl⟩

theorem parse_pretty (document : Json) (plain : document.Plain maxDepth) :
    parse? document.pretty = some document.reread.tidy :=
  (parse?_eq_some_iff _ _).2 ⟨_, document_pretty document plain, rfl⟩

end ScriptSandbox.Json
