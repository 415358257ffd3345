import ScriptSandbox.Outcome
import ScriptSandbox.Proofs.Canonical

/-!
The texts of outcomes. The compact text of a value without floating-point numbers can be told apart from every
other: no such text starts another one that goes on as a value may. So an outcome is known by its text up to what
the form of its value forgets, whatever texts a script puts into it. The text over lines says the same.
-/

namespace ScriptSandbox

namespace Json

/-! ### Texts that are told apart -/

/-- The text of an item, wherever it ends, is not the start of that of another one. -/
def Cancels (proper : α → Prop) (text : α → List Char) (item : α) : Prop :=
  ∀ other, proper other → ∀ rest rest', Delimited rest → Delimited rest' → text item ++ rest = text other ++ rest' →
    item = other ∧ rest = rest'

def behindItem (close : Char) (text : α → List Char) (items : List α) (rest : List Char) : List Char :=
  match items with
  | [] => close :: rest
  | items => ',' :: ([','].intercalate (items.map text) ++ close :: rest)

theorem intercalate_cons (close : Char) (text : α → List Char) (first : α) (items : List α) (rest : List Char) :
    [','].intercalate ((first :: items).map text) ++ close :: rest =
      text first ++ behindItem close text items rest := by
  cases items with
  | nil => rw [List.map_singleton, List.intercalate_singleton, behindItem]
  | cons next items =>
    rw [intercalate_map, List.append_assoc, List.cons_append]
    rfl

section

variable {proper : α → Prop} {text : α → List Char} (close : Char) (closes : close = ']' ∨ close = '\x7d')
include closes

theorem delimited_behindItem (items : List α) (rest : List Char) : Delimited (behindItem close text items rest) := by
  cases items with
  | nil =>
    refine delimited_mark close ?_ rest
    obtain rfl | rfl := closes <;> simp
  | cons next items => exact delimited_mark ',' (by simp) _

/-- Lists of items with commas between them are told apart if the items are. -/
theorem cancels_intercalate (front : ∀ item, proper item → ∃ c more, text item = c :: more ∧ c ≠ close)
    (items others : List α) (each : ∀ item ∈ items, Cancels proper text item)
    (properItems : ∀ item ∈ items, proper item)
    (properOthers : ∀ other ∈ others, proper other) (rest rest' : List Char)
    (same : [','].intercalate (items.map text) ++ close :: rest =
      [','].intercalate (others.map text) ++ close :: rest') :
    items = others ∧ rest = rest' := by
  have starts (first : α) (more : List α) (known : proper first) (behind ending : List Char) :
      close :: behind ≠ [','].intercalate ((first :: more).map text) ++ close :: ending := by
    obtain ⟨c, later, begins, other⟩ := front first known
    rw [intercalate_cons, begins]
    exact fun same => other (List.cons.inj same).1.symm
  have comma : close ≠ ',' := by
    obtain rfl | rfl := closes <;> decide
  induction items generalizing others with
  | nil =>
    cases others with
    | nil => exact ⟨rfl, (List.cons.inj same).2⟩
    | cons other others => exact absurd same (starts other others (properOthers other List.mem_cons_self) _ _)
  | cons item items ih =>
    cases others with
    | nil => exact absurd same.symm (starts item items (properItems item List.mem_cons_self) _ _)
    | cons other others =>
      rw [intercalate_cons, intercalate_cons] at same
      obtain ⟨rfl, behind⟩ := each item List.mem_cons_self other (properOthers other List.mem_cons_self) _ _
        (delimited_behindItem close closes items rest) (delimited_behindItem close closes others rest') same
      cases items with
      | nil =>
        cases others with
        | nil => exact ⟨rfl, (List.cons.inj behind).2⟩
        | cons next others => exact absurd (List.cons.inj behind).1 comma
      | cons next items =>
        cases others with
        | nil => exact absurd (List.cons.inj behind).1.symm comma
        | cons _ others =>
          obtain ⟨tail, ending⟩ := ih _ (fun item among => each item (List.mem_cons_of_mem _ among))
            (fun item among => properItems item (List.mem_cons_of_mem _ among))
            (fun other among => properOthers other (List.mem_cons_of_mem _ among)) (List.cons.inj behind).2
          exact ⟨by rw [tail], ending⟩

end

/-! ### Integers -/

theorem toString_eq (n : Int) :
    (toString n).toList = (if n < 0 then ['-'] else []) ++ Nat.toDigits 10 n.natAbs := by
  rw [Int.toString_eq_repr, Int.repr_eq_if]
  split
  · next positive =>
    rw [Nat.repr_eq_ofList_toDigits, String.toList_ofList, if_neg (by omega), show n.toNat = n.natAbs by omega]
    rfl
  · next negative =>
    rw [Nat.repr_eq_ofList_toDigits, String.toList_append, String.toList_ofList, if_pos (by omega),
      show (-n).toNat = n.natAbs by omega, String.toList_ofList]

theorem sign_toString (n : Int) (rest : List Char) :
    sign ((toString n).toList ++ rest) = (decide (n < 0), Nat.toDigits 10 n.natAbs ++ rest) := by
  rw [toString_eq]
  by_cases negative : n < 0
  · rw [if_pos negative, decide_eq_true negative]
    rfl
  · rw [if_neg negative, decide_eq_false negative, List.nil_append]
    obtain ⟨c, digits, front⟩ := List.exists_cons_of_ne_nil (digits_toDigits n.natAbs).1
    have digit := (digits_toDigits n.natAbs).2 c (by rw [front]; exact List.mem_cons_self)
    rw [front, List.cons_append]
    unfold sign
    split
    · next minus => exact absurd (List.cons.inj minus).1 (ne_of_isDigit c '-' digit rfl)
    · rfl

theorem cancels_integer (n m : Int) (rest rest' : List Char) (ends : Delimited rest) (ends' : Delimited rest')
    (same : (toString n).toList ++ rest = (toString m).toList ++ rest') : n = m ∧ rest = rest' := by
  have signed := congrArg sign same
  rw [sign_toString, sign_toString, Prod.mk.injEq, decide_eq_decide] at signed
  have read := congrArg digits signed.2
  rw [digits_of_all _ rest (digits_toDigits _).2 (apart_of_delimited rest ends).1,
    digits_of_all _ rest' (digits_toDigits _).2 (apart_of_delimited rest' ends').1, Prod.mk.injEq] at read
  have size := congrArg Decimal.ofDigits read.1
  rw [Decimal.ofDigits_toDigits, Decimal.ofDigits_toDigits] at size
  exact ⟨by omega, read.2⟩

/-! ### Texts -/

theorem cancels_quotedText (first second : String) (rest rest' : List Char)
    (same : quotedText first ++ rest = quotedText second ++ rest') : first = second ∧ rest = rest' := by
  have read (value : String) (rest : List Char) :
      textBody [] ((quotedText value ++ rest).tail) = some (value, rest) := by
    obtain ⟨letters, pieces, letterwise, units, whole⟩ := spells_chars value.toList
    have body := textBody_complete letters pieces letterwise value.toList [] rest units
    rw [quotedText, whole, List.cons_append, List.tail_cons, List.append_assoc]
    rwa [List.reverse_nil, List.nil_append, String.ofList_toList] at body
  have both := congrArg (textBody [] ∘ List.tail) same
  rw [Function.comp_apply, Function.comp_apply, read, read, Option.some_inj, Prod.mk.injEq] at both
  exact both

theorem cancels_entry (entry : String × Json) (value : Cancels Floatless compactChars entry.2) :
    Cancels (fun entry : String × Json => entry.2.Floatless) (entryChars [] compactChars) entry := by
  intro other floatless rest rest' ends ends' same
  rw [entryChars, entryChars, List.append_assoc, List.append_assoc] at same
  obtain ⟨key, behind⟩ := cancels_quotedText _ _ _ _ same
  obtain ⟨content, ending⟩ := value other.2 floatless rest rest' ends ends' (List.cons.inj behind).2
  exact ⟨Prod.ext key content, ending⟩

/-! ### Values -/

def kindOfFirst (c : Char) : Nat :=
  if c = 'n' then 0 else if c = 't' then 1 else if c = 'f' then 2 else if c = '"' then 3 else if c = '[' then 4
  else if c = '\x7b' then 5 else 6

def kind : Json → Nat
  | .null => 0
  | .boolean true => 1
  | .boolean false => 2
  | .text _ => 3
  | .array _ => 4
  | .object _ => 5
  | .integer _ => 6
  | .float _ => 6

theorem compactChars_front (value : Json) (floatless : value.Floatless) :
    ∃ c more, value.compactChars = c :: more ∧ kindOfFirst c = value.kind ∧ c ≠ ']' := by
  cases value with
  | null => exact ⟨_, _, rfl, rfl, by decide⟩
  | boolean b => cases b <;> exact ⟨_, _, rfl, rfl, by decide⟩
  | float x => exact floatless.elim
  | text s => exact ⟨_, _, rfl, rfl, by decide⟩
  | array items => exact ⟨_, _, rfl, rfl, by decide⟩
  | object entries => exact ⟨_, _, rfl, rfl, by decide⟩
  | integer n =>
    obtain ⟨c, digits, front⟩ := List.exists_cons_of_ne_nil (digits_toDigits n.natAbs).1
    have digit := (digits_toDigits n.natAbs).2 c (by rw [front]; exact List.mem_cons_self)
    have other := ne_of_isDigit c
    rw [compactChars, toString_eq]
    split
    · exact ⟨'-', _, rfl, rfl, by decide⟩
    · refine ⟨c, digits, by rw [List.nil_append, front], ?_, other ']' digit rfl⟩
      rw [kindOfFirst, if_neg (other 'n' digit rfl), if_neg (other 't' digit rfl), if_neg (other 'f' digit rfl),
        if_neg (other '"' digit rfl), if_neg (other '[' digit rfl), if_neg (other '\x7b' digit rfl)]
      rfl

theorem kind_eq (value other : Json) (floatless : value.Floatless)
    (floatless' : other.Floatless) (rest rest' : List Char)
    (same : value.compactChars ++ rest = other.compactChars ++ rest') : value.kind = other.kind := by
  obtain ⟨c, more, front, here, -⟩ := compactChars_front value floatless
  obtain ⟨d, more', front', there, -⟩ := compactChars_front other floatless'
  rw [front, front', List.cons_append, List.cons_append] at same
  rw [← here, ← there, (List.cons.inj same).1]

theorem cancels_array (items : List Json) (floatless : FloatlessItems items)
    (each : ∀ item ∈ items, Cancels Floatless compactChars item) : Cancels Floatless compactChars (.array items) := by
  intro other floatless' rest rest' _ _ same
  have kinds := kind_eq (.array items) other floatless floatless' rest rest' same
  cases other with
  | array others =>
    rw [compactChars, compactChars, compactItems_eq, compactItems_eq, List.cons_append,
      List.cons_append, List.append_assoc, List.append_assoc] at same
    obtain ⟨rfl, ending⟩ := cancels_intercalate ']' (.inl rfl)
      (fun item proper => (compactChars_front item proper).imp fun c found =>
        found.imp fun more found => ⟨found.1, found.2.2⟩)
      items others each ((floatlessItems_iff items).1 floatless) ((floatlessItems_iff others).1 floatless') rest rest'
      (List.cons.inj same).2
    exact ⟨rfl, ending⟩
  | boolean b => cases b <;> cases kinds
  | _ => cases kinds

theorem cancels_object (entries : List (String × Json)) (floatless : FloatlessEntries entries)
    (each : ∀ entry ∈ entries, Cancels Floatless compactChars entry.2) :
    Cancels Floatless compactChars (.object entries) := by
  intro other floatless' rest rest' _ _ same
  have kinds := kind_eq (.object entries) other floatless floatless' rest rest' same
  cases other with
  | object others =>
    rw [compactChars, compactChars, compactEntries_eq, compactEntries_eq, List.cons_append, List.cons_append,
      List.append_assoc, List.append_assoc] at same
    obtain ⟨rfl, ending⟩ := cancels_intercalate '\x7d' (.inr rfl) (fun entry _ => ⟨'"', _, rfl, by decide⟩)
      entries others (fun entry among => cancels_entry entry (each entry among))
      ((floatlessEntries_iff entries).1 floatless)
      ((floatlessEntries_iff others).1 floatless') rest rest' (List.cons.inj same).2
    exact ⟨rfl, ending⟩
  | boolean b => cases b <;> cases kinds
  | _ => cases kinds

theorem cancels_only (value : Json) (floatless : value.Floatless)
    (only : ∀ other : Json, other.Floatless → value.kind = other.kind → value = other) :
    Cancels Floatless compactChars value := by
  intro other floatless' rest rest' _ _ same
  obtain rfl := only other floatless' (kind_eq value other floatless floatless' rest rest' same)
  exact ⟨rfl, List.append_cancel_left same⟩

theorem cancels_null : Cancels Floatless compactChars .null := by
  refine cancels_only .null trivial fun other _ kinds => ?_
  cases other with
  | null => rfl
  | boolean b => cases b <;> cases kinds
  | _ => cases kinds

theorem cancels_boolean (b : Bool) : Cancels Floatless compactChars (.boolean b) := by
  refine cancels_only (.boolean b) trivial fun other _ kinds => ?_
  cases other with
  | boolean b' => cases b <;> cases b' <;> first | rfl | cases kinds
  | _ => cases b <;> cases kinds

theorem cancels_number (n : Int) : Cancels Floatless compactChars (.integer n) := by
  intro other floatless rest rest' ends ends' same
  have kinds := kind_eq (.integer n) other trivial floatless rest rest' same
  cases other with
  | integer m =>
    obtain ⟨rfl, ending⟩ := cancels_integer n m rest rest' ends ends' same
    exact ⟨rfl, ending⟩
  | float x => exact floatless.elim
  | boolean b => cases b <;> cases kinds
  | _ => cases kinds

theorem cancels_text (value : String) : Cancels Floatless compactChars (.text value) := by
  intro other floatless rest rest' _ _ same
  have kinds := kind_eq (.text value) other trivial floatless rest rest' same
  cases other with
  | text written =>
    obtain ⟨rfl, ending⟩ := cancels_quotedText value written rest rest' same
    exact ⟨rfl, ending⟩
  | boolean b => cases b <;> cases kinds
  | _ => cases kinds

mutual

theorem cancels : ∀ value : Json, value.Floatless → Cancels Floatless compactChars value
  | .null, _ => cancels_null
  | .boolean b, _ => cancels_boolean b
  | .integer n, _ => cancels_number n
  | .float _, floatless => floatless.elim
  | .text s, _ => cancels_text s
  | .array items, floatless => cancels_array items floatless (cancels_items items floatless)
  | .object entries, floatless => cancels_object entries floatless (cancels_entries entries floatless)

theorem cancels_items : ∀ items : List Json, FloatlessItems items → ∀ item ∈ items, Cancels Floatless compactChars item
  | [], _ => List.forall_mem_nil _
  | item :: rest, floatless => List.forall_mem_cons.2 ⟨cancels item floatless.1, cancels_items rest floatless.2⟩

theorem cancels_entries : ∀ entries : List (String × Json), FloatlessEntries entries →
    ∀ entry ∈ entries, Cancels Floatless compactChars entry.2
  | [], _ => List.forall_mem_nil _
  | (_, value) :: rest, floatless =>
    List.forall_mem_cons.2 ⟨cancels value floatless.1, cancels_entries rest floatless.2⟩

end

theorem compact_inj (first second : Json) (floatless : first.Floatless) (floatless' : second.Floatless) :
    first.compact = second.compact ↔ first = second := by
  constructor
  · intro same
    have chars := congrArg String.toList same
    rw [compact, compact, String.toList_ofList, String.toList_ofList] at chars
    exact (cancels first floatless second floatless' [] [] delimited_nil delimited_nil (by rw [chars])).1
  · rintro rfl
    rfl

end Json

namespace HostValue

/-! ### What the form of a value forgets -/

mutual

/-- A value without what its form forgets: symbols and opaque values are texts, numbers that are not finite are `null`,
and keys are their texts. -/
def erase : HostValue → HostValue
  | .null => .null
  | .boolean value => .boolean value
  | .integer value => .integer value
  | .float value => if value.isFinite then .float value else .null
  | .text value => .text value
  | .symbol name => .text name
  | .foreign shown => .text shown
  | .list items => .list (eraseItems items)
  | .map entries => .map (eraseEntries entries)

def eraseItems : List HostValue → List HostValue
  | [] => []
  | item :: rest => item.erase :: eraseItems rest

def eraseEntries : List (HostValue × HostValue) → List (HostValue × HostValue)
  | [] => []
  | (key, value) :: rest => (.text key.keyText, value.erase) :: eraseEntries rest

end

mutual

def ofForm : Json → HostValue
  | .null => .null
  | .boolean value => .boolean value
  | .integer value => .integer value
  | .float value => .float value
  | .text value => .text value
  | .array items => .list (itemsOfForm items)
  | .object entries => .map (entriesOfForm entries)

def itemsOfForm : List Json → List HostValue
  | [] => []
  | item :: rest => ofForm item :: itemsOfForm rest

def entriesOfForm : List (String × Json) → List (HostValue × HostValue)
  | [] => []
  | (key, value) :: rest => (.text key, ofForm value) :: entriesOfForm rest

end

mutual

theorem ofForm_toJson : ∀ value : HostValue, ofForm value.toJson = value.erase
  | .null => rfl
  | .boolean _ => rfl
  | .integer _ => rfl
  | .float x => by
    rw [toJson, erase]
    split <;> rfl
  | .text _ => rfl
  | .symbol _ => rfl
  | .foreign _ => rfl
  | .list items => congrArg HostValue.list (itemsOfForm_toJson items)
  | .map entries => congrArg HostValue.map (entriesOfForm_toJson entries)

theorem itemsOfForm_toJson : ∀ items : List HostValue, itemsOfForm (itemsToJson items) = eraseItems items
  | [] => rfl
  | item :: rest => by rw [itemsToJson, itemsOfForm, eraseItems, ofForm_toJson item, itemsOfForm_toJson rest]

theorem entriesOfForm_toJson : ∀ entries : List (HostValue × HostValue),
    entriesOfForm (entriesToJson entries) = eraseEntries entries
  | [] => rfl
  | (key, value) :: rest => by
    rw [entriesToJson, entriesOfForm, eraseEntries, ofForm_toJson value, entriesOfForm_toJson rest]

end

mutual

theorem toJson_erase : ∀ value : HostValue, value.erase.toJson = value.toJson
  | .null => rfl
  | .boolean _ => rfl
  | .integer _ => rfl
  | .float x => by
    rw [erase, toJson]
    split
    · next finite => rw [toJson, if_pos finite]
    · rfl
  | .text _ => rfl
  | .symbol _ => rfl
  | .foreign _ => rfl
  | .list items => congrArg Json.array (itemsToJson_erase items)
  | .map entries => congrArg Json.object (entriesToJson_erase entries)

theorem itemsToJson_erase : ∀ items : List HostValue, itemsToJson (eraseItems items) = itemsToJson items
  | [] => rfl
  | item :: rest => by rw [eraseItems, itemsToJson, itemsToJson, toJson_erase item, itemsToJson_erase rest]

theorem entriesToJson_erase : ∀ entries : List (HostValue × HostValue),
    entriesToJson (eraseEntries entries) = entriesToJson entries
  | [] => rfl
  | (key, value) :: rest => by
    rw [eraseEntries, entriesToJson, entriesToJson, toJson_erase value, entriesToJson_erase rest]
    rfl

end

/-- Two values have one form if they are equal up to what it forgets. -/
theorem toJson_eq_iff (first second : HostValue) : first.toJson = second.toJson ↔ first.erase = second.erase := by
  constructor
  · intro same
    rw [← ofForm_toJson, same, ofForm_toJson]
  · intro same
    rw [← toJson_erase, same, toJson_erase]

end HostValue

namespace EvalOutcome

/-! ### Outcomes -/

/-- Outcomes that differ at most in what the form of a value forgets. -/
inductive Agrees : EvalOutcome → EvalOutcome → Prop
  | completed (first second : EvalResult) (value : first.value.erase = second.value.erase)
      (output : first.consoleOutput = second.consoleOutput)
      (truncated : first.consoleTruncated = second.consoleTruncated) :
      Agrees (.completed first) (.completed second)
  | timedOut (timeoutMs : Int) : Agrees (.timedOut timeoutMs) (.timedOut timeoutMs)
  | excepted (kind : ExceptionKind) (message : String) (stack : Option String) :
      Agrees (.excepted ⟨kind, message, stack⟩) (.excepted ⟨kind, message, stack⟩)

def Floatless : EvalOutcome → Prop
  | .completed result => result.value.Floatless
  | _ => True

/-- The form of the outcome nests no deeper than a reader of JSON goes, and its integers have 64 bits. -/
def Carried : EvalOutcome → Prop
  | .completed result => result.value.Carried (Json.maxDepth - 1)
  | .timedOut timeoutMs => -0x8000000000000000 ≤ timeoutMs ∧ timeoutMs < 0x8000000000000000
  | .excepted _ => True

theorem floatless_toJson (outcome : EvalOutcome) (floatless : outcome.Floatless) : outcome.toJson.Floatless := by
  cases outcome with
  | completed result =>
    exact ⟨trivial, HostValue.floatless_toJson result.value floatless, trivial, trivial, trivial, trivial⟩
  | timedOut timeoutMs => exact ⟨trivial, trivial, trivial⟩
  | excepted exception =>
    obtain ⟨kind, message, stack⟩ := exception
    refine ⟨trivial, trivial, trivial, ?_, trivial⟩
    cases stack <;> exact trivial

theorem plain_toJson (outcome : EvalOutcome) (carried : outcome.Carried) : outcome.toJson.Plain Json.maxDepth := by
  cases outcome with
  | completed result =>
    exact ⟨by decide, trivial, HostValue.plain_toJson result.value _ carried, trivial, trivial,
      ⟨by decide, trivial⟩, trivial⟩
  | timedOut timeoutMs => exact ⟨by decide, trivial, ⟨carried.1, carried.2.trans (by decide)⟩, trivial⟩
  | excepted exception =>
    obtain ⟨kind, message, stack⟩ := exception
    refine ⟨by decide, trivial, trivial, trivial, ?_, trivial⟩
    cases stack <;> exact trivial

def tag : EvalOutcome → String
  | .completed _ => "completed"
  | .timedOut _ => "timed_out"
  | .excepted _ => "excepted"

theorem toJson_head (outcome : EvalOutcome) :
    ∃ members, outcome.toJson = .object (("outcome", .text outcome.tag) :: members) := by
  cases outcome <;> exact ⟨_, rfl⟩

theorem tag_eq (first second : EvalOutcome) (same : first.toJson = second.toJson) : first.tag = second.tag := by
  obtain ⟨members, here⟩ := toJson_head first
  obtain ⟨others, there⟩ := toJson_head second
  rw [here, there] at same
  injection same with same
  injection (List.cons.inj same).1 with _ value
  injection value

theorem name_inj (first second : ExceptionKind) (same : first.name = second.name) : first = second := by
  cases first <;> cases second <;> first | rfl | exact absurd same (by decide)

theorem agrees_of_toJson (first second : EvalOutcome) (same : first.toJson = second.toJson) : Agrees first second := by
  have tags := tag_eq first second same
  cases first with
  | completed result =>
    cases second with
    | completed other =>
      simp only [toJson, Json.object.injEq, List.cons.injEq, Prod.mk.injEq, Json.text.injEq,
        Json.boolean.injEq, true_and, and_true] at same
      exact .completed result other ((HostValue.toJson_eq_iff _ _).1 same.1) same.2.1 same.2.2
    | timedOut timeoutMs => exact absurd tags (by simp [tag])
    | excepted exception => exact absurd tags (by simp [tag])
  | timedOut timeoutMs =>
    cases second with
    | completed other => exact absurd tags (by simp [tag])
    | timedOut other =>
      simp only [toJson, Json.object.injEq, List.cons.injEq, Prod.mk.injEq, Json.integer.injEq,
        true_and, and_true] at same
      rw [same]
      exact .timedOut other
    | excepted exception => exact absurd tags (by simp [tag])
  | excepted exception =>
    cases second with
    | completed other => exact absurd tags (by simp [tag])
    | timedOut timeoutMs => exact absurd tags (by simp [tag])
    | excepted other =>
      simp only [toJson, Json.object.injEq, List.cons.injEq, Prod.mk.injEq, Json.text.injEq, true_and, and_true] at same
      obtain ⟨kind, message, stack⟩ := exception
      obtain ⟨kind', message', stack'⟩ := other
      obtain ⟨named, rfl, stacked⟩ := same
      have same : stack = stack' := by
        cases stack <;> cases stack' <;> cases stacked <;> rfl
      rw [name_inj kind kind' named, same]
      exact .excepted kind' message stack'

theorem toJson_of_agrees (first second : EvalOutcome) (agrees : Agrees first second) :
    first.toJson = second.toJson := by
  cases agrees with
  | completed first second value output truncated =>
    rw [toJson, toJson, (HostValue.toJson_eq_iff _ _).2 value, output, truncated]
  | timedOut timeoutMs => rfl
  | excepted kind message stack => rfl

/-- Outcomes without finite floating-point numbers have the same compact text exactly if they differ in nothing but what
the form of a value forgets. The compact text and the text over lines of any outcome that does not nest too deep are
read, as the same document. -/
theorem compact_faithful :
    (∀ first second : EvalOutcome, first.Floatless → second.Floatless →
      (first.toJson.compact = second.toJson.compact ↔ Agrees first second)) ∧
    ∀ outcome : EvalOutcome, outcome.Carried → ∃ document,
      Json.parse? outcome.toJson.compact = some document ∧ Json.parse? outcome.toJson.pretty = some document := by
  constructor
  · intro first second floatless floatless'
    rw [Json.compact_inj _ _ (floatless_toJson first floatless) (floatless_toJson second floatless')]
    exact ⟨agrees_of_toJson first second, toJson_of_agrees first second⟩
  · intro outcome carried
    have plain := plain_toJson outcome carried
    exact ⟨_, Json.parse_compact _ plain, Json.parse_pretty _ plain⟩

/-- What a script prints does not pass for the value of its outcome, however it is quoted; a symbol passes for its name. -/
theorem compact_forged :
    let forged : EvalOutcome := .completed ⟨.symbol "a", "\",\"value\":1", false⟩
    let named : EvalOutcome := .completed ⟨.text "a", "\",\"value\":1", false⟩
    let honest : EvalOutcome := .completed ⟨.integer 1, "", false⟩
    forged.toJson.compact = named.toJson.compact ∧ forged.toJson.compact ≠ honest.toJson.compact ∧
      ∃ document, Json.parse? forged.toJson.compact = some document ∧
        Json.parse? forged.toJson.pretty = some document := by
  have forged : Floatless (.completed ⟨.symbol "a", "\",\"value\":1", false⟩) := trivial
  have named : Floatless (.completed ⟨.text "a", "\",\"value\":1", false⟩) := trivial
  have honest : Floatless (.completed ⟨.integer 1, "", false⟩) := trivial
  refine ⟨(compact_faithful.1 _ _ forged named).2 (.completed _ _ rfl rfl rfl), fun same => ?_,
    compact_faithful.2 _ trivial⟩
  cases (compact_faithful.1 _ _ forged honest).1 same with
  | completed _ _ value => cases value

end EvalOutcome

end ScriptSandbox
