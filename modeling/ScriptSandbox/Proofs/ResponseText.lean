import ScriptSandbox.Http.Message
import ScriptSandbox.Proofs.JsonReading
import ScriptSandbox.Proofs.KeyOrder

/-!
Answers in the form of JSON texts. A text is accepted exactly if it is a document whose value is an object with
fields of the right kinds, the last member of each key deciding; and the text of an answer gives it back.
-/

namespace ScriptSandbox

namespace Json

def last? (key : String) (members : List (String × α)) : Option α := members.reverse.lookup key

theorem lookup_insertEntry (key other : String) (value : α) (entries : List (String × α)) :
    (insertEntry other value entries).lookup key = if key == other then some value else entries.lookup key := by
  induction entries with
  | nil => cases same : key == other <;> simp [insertEntry, List.lookup, same]
  | cons first rest ih =>
    obtain ⟨here, kept⟩ := first
    rw [insertEntry]
    split
    · cases same : key == other <;> simp [List.lookup_cons, same]
    split
    · next same =>
      subst same
      cases same : key == other <;> simp [List.lookup_cons, same]
    · next unlike =>
      rw [List.lookup_cons, List.lookup_cons, ih]
      cases skipped : key == here with
      | false => rfl
      | true =>
        have different : (key == other) = false := by
          rw [beq_iff_eq.1 skipped]
          exact beq_false_of_ne (Ne.symm unlike)
        simp [different]

theorem lookup_sortEntries (key : String) (members : List (String × α)) :
    (sortEntries members).lookup key = last? key members := by
  induction members using List.reverseRec with
  | nil => rfl
  | append_singleton members last ih =>
    rw [sortEntries_snoc, lookup_insertEntry, ih, last?, last?, List.reverse_append, List.reverse_singleton,
      List.singleton_append, List.lookup_cons]
    cases key == last.1 <;> rfl

theorem lookup_map (change : α → β) (key : String) (entries : List (String × α)) :
    (entries.map fun entry => (entry.1, change entry.2)).lookup key = (entries.lookup key).map change := by
  induction entries with
  | nil => rfl
  | cons first rest ih =>
    rw [List.map_cons, List.lookup_cons, List.lookup_cons, ih]
    cases key == first.1 <;> rfl

theorem sortEntries_tidyEntries (members : List (String × Json)) :
    sortEntries (tidyEntries members) = (sortEntries members).map fun entry => (entry.1, entry.2.tidy) := by
  rw [tidyEntries_eq, sortEntries_map]

end Json

namespace HttpResponse

/-! ### What an answer looks like -/

inductive IsStatus : Option Json → Option Int → Prop
  | absent : IsStatus none none
  | null : IsStatus (some .null) none
  | number (n : Int) (least : -0x80000000 ≤ n) (greatest : n < 0x80000000) : IsStatus (some (.integer n)) (some n)

inductive IsText : Option Json → Option String → Prop
  | absent : IsText none none
  | null : IsText (some .null) none
  | text (value : String) : IsText (some (.text value)) (some value)

/-- What stands for headers: nothing, or an object where the last member of each key is a text. -/
inductive AreHeaders : Option Json → List (String × String) → Prop
  | absent : AreHeaders none []
  | texts (members : List (String × Json)) (headers : List (String × String))
      (same : Json.inByteOrder members = headers.map fun header => (header.1, .text header.2)) :
      AreHeaders (some (.object members)) headers

/-- The members of an object, as they are written, describe an answer. -/
structure Describes (members : List (String × Json)) (response : HttpResponse) : Prop where
  status : IsStatus (Json.last? "status" members) response.status
  statusText : IsText (Json.last? "statusText" members) response.statusText
  body : IsText (Json.last? "body" members) response.body
  headers : AreHeaders (Json.last? "headers" members) response.headers

/-! ### Reading the fields -/

def Sets (read : Json → Reading β) (found : Option Json) (before after : β) : Prop :=
  match found with
  | none => before = after
  | some value => read value = .ok after

@[simp]
theorem sets_none (read : Json → Reading β) (before after : β) : Sets read none before after ↔ before = after := Iff.rfl

@[simp]
theorem sets_some (read : Json → Reading β) (value : Json) (before after : β) :
    Sets read (some value) before after ↔ read value = .ok after := Iff.rfl

theorem sets_or (read : Json → Reading β) (first second : Option Json) (before after : β)
    (once : first = none ∨ second = none) :
    Sets read (first.or second) before after ↔
      ∃ between, Sets read first before between ∧ Sets read second between after := by
  obtain rfl | rfl := once
  · simp
  · simp

def SetsAll (entries : List (String × Json)) (before after : HttpResponse) : Prop :=
  Sets readStatus (entries.lookup "status") before.status after.status ∧
  Sets readTextOption (entries.lookup "statusText") before.statusText after.statusText ∧
  Sets readTextOption (entries.lookup "body") before.body after.body ∧
  Sets readHeaders (entries.lookup "headers") before.headers after.headers

theorem map_eq_ok (change : β → γ) (result : Reading β) (after : γ) :
    change <$> result = .ok after ↔ ∃ content, result = .ok content ∧ change content = after := by
  cases result with
  | error complaint => simp
  | ok content => simp

theorem lookup_here (key : String) (value : Json) : [(key, value)].lookup key = some value := by
  rw [List.lookup_cons, beq_self_eq_true]

theorem lookup_other (name key : String) (value : Json) (other : key ≠ name) : [(key, value)].lookup name = none := by
  rw [List.lookup_cons, beq_false_of_ne (Ne.symm other), List.lookup_nil]

theorem setField_eq_ok (before after : HttpResponse) (field : String × Json) :
    setField before field = .ok after ↔ SetsAll [field] before after := by
  obtain ⟨key, value⟩ := field
  obtain ⟨status, statusText, body, headers⟩ := before
  obtain ⟨status', statusText', body', headers'⟩ := after
  have skipped (name : String) (other : key ≠ name) := lookup_other name key value other
  unfold setField
  split
  · next same =>
    subst same
    rw [SetsAll, lookup_here, skipped _ (by decide), skipped _ (by decide), skipped _ (by decide)]
    simp [map_eq_ok]
  · next same =>
    subst same
    rw [SetsAll, skipped _ (by decide), lookup_here, skipped _ (by decide), skipped _ (by decide)]
    simp [map_eq_ok]
    tauto
  · next same =>
    subst same
    rw [SetsAll, skipped _ (by decide), skipped _ (by decide), lookup_here, skipped _ (by decide)]
    simp [map_eq_ok]
    tauto
  · next same =>
    subst same
    rw [SetsAll, skipped _ (by decide), skipped _ (by decide), skipped _ (by decide), lookup_here]
    simp [map_eq_ok]
    tauto
  · next noStatus noStatusText noBody noHeaders =>
    rw [SetsAll, skipped _ noStatus, skipped _ noStatusText, skipped _ noBody, skipped _ noHeaders]
    simp [pure, Except.pure]

theorem setsAll_cons (first : String × Json) (rest : List (String × Json)) (new : ∀ later ∈ rest, first.1 ≠ later.1)
    (before after : HttpResponse) :
    SetsAll (first :: rest) before after ↔ ∃ between, SetsAll [first] before between ∧ SetsAll rest between after := by
  have once (name : String) : [first].lookup name = none ∨ rest.lookup name = none := by
    by_cases same : first.1 = name
    · refine .inr (List.lookup_eq_none_iff.2 fun later among => ?_)
      rw [← same, bne_iff_ne]
      exact new later among
    · exact .inl (lookup_other name first.1 first.2 same)
  have apart (name : String) : (first :: rest).lookup name = ([first].lookup name).or (rest.lookup name) := by
    rw [← List.lookup_append, List.singleton_append]
  rw [SetsAll, apart, apart, apart, apart, sets_or _ _ _ _ _ (once _), sets_or _ _ _ _ _ (once _),
    sets_or _ _ _ _ _ (once _), sets_or _ _ _ _ _ (once _)]
  constructor
  · rintro ⟨⟨status, status₁, status₂⟩, ⟨statusText, text₁, text₂⟩, ⟨body, body₁, body₂⟩, headers, headers₁, headers₂⟩
    exact ⟨⟨status, statusText, body, headers⟩, ⟨status₁, text₁, body₁, headers₁⟩, status₂, text₂, body₂, headers₂⟩
  · rintro ⟨between, ⟨status₁, text₁, body₁, headers₁⟩, status₂, text₂, body₂, headers₂⟩
    exact ⟨⟨_, status₁, status₂⟩, ⟨_, text₁, text₂⟩, ⟨_, body₁, body₂⟩, _, headers₁, headers₂⟩

theorem foldlM_setField (entries : List (String × Json))
    (distinct : entries.Pairwise fun first second => first.1 ≠ second.1)
    (before after : HttpResponse) : entries.foldlM setField before = .ok after ↔ SetsAll entries before after := by
  induction distinct generalizing before with
  | nil =>
    obtain ⟨status, statusText, body, headers⟩ := before
    obtain ⟨status', statusText', body', headers'⟩ := after
    simp [SetsAll, pure, Except.pure]
  | cons new _ ih =>
    rw [List.foldlM_cons, Mismatch.bind_eq_ok, setsAll_cons _ _ new]
    simp only [setField_eq_ok, ih]

/-! ### Kinds of fields -/

theorem readStatus_eq_ok (value : Json) (status : Option Int) :
    readStatus value.tidy = .ok status ↔ IsStatus (some value) status := by
  constructor
  · intro read
    cases value with
    | null =>
      cases read
      exact .null
    | integer n =>
      change (if _ then _ else _) = _ at read
      split at read
      · next fits =>
        cases read
        exact .number n fits.1 fits.2
      · cases read
    | _ => cases read
  · rintro (_ | _ | ⟨n, least, greatest⟩)
    · rfl
    · exact if_pos ⟨least, greatest⟩

theorem readTextOption_eq_ok (value : Json) (text : Option String) :
    readTextOption value.tidy = .ok text ↔ IsText (some value) text := by
  constructor
  · intro read
    cases value with
    | null =>
      cases read
      exact .null
    | text written =>
      cases read
      exact .text written
    | _ => cases read
  · rintro (_ | _ | value) <;> rfl

theorem readText_eq_ok (value : Json) (text : String) : readText value.tidy = .ok text ↔ value = .text text := by
  cases value <;> simp [readText, Json.tidy]

theorem mapM_readText (entries : List (String × Json)) (headers : List (String × String)) :
    ((entries.map fun entry => (entry.1, entry.2.tidy)).mapM fun (key, value) => (readText value).map (key, ·)) =
        .ok headers ↔
      entries = headers.map fun header => (header.1, .text header.2) := by
  induction entries generalizing headers with
  | nil => cases headers <;> simp [pure, Except.pure]
  | cons first rest ih =>
    obtain ⟨key, value⟩ := first
    have each (header : String × String) : (readText value.tidy).map (key, ·) = .ok header ↔
        (key, value) = (header.1, .text header.2) := by
      obtain ⟨name, text⟩ := header
      refine (map_eq_ok _ _ _).trans ?_
      simp only [readText_eq_ok, Prod.mk.injEq]
      constructor
      · rintro ⟨_, same, rfl, rfl⟩
        exact ⟨rfl, same⟩
      · rintro ⟨rfl, same⟩
        exact ⟨text, same, rfl, rfl⟩
    rw [List.map_cons, List.mapM_cons, Mismatch.bind_eq_ok]
    simp only [Mismatch.bind_eq_ok, each, ih, pure, Except.pure, Except.ok.injEq]
    constructor
    · rintro ⟨header, same, others, rfl, rfl⟩
      rw [List.map_cons, same]
    · intro same
      obtain ⟨header, others, rfl, here, later⟩ := List.map_eq_cons_iff.1 same.symm
      exact ⟨header, here.symm, others, later.symm, rfl⟩

theorem readHeaders_eq_ok (value : Json) (headers : List (String × String)) :
    readHeaders value.tidy = .ok headers ↔ AreHeaders (some value) headers := by
  constructor
  · intro read
    cases value with
    | object members =>
      rw [Json.tidy, Json.sortEntries_tidyEntries, Json.sortEntries_eq] at read
      exact .texts members headers ((mapM_readText _ _).1 read)
    | _ => cases read
  · rintro (_ | ⟨members, _, same⟩)
    rw [Json.tidy, Json.sortEntries_tidyEntries, Json.sortEntries_eq]
    exact (mapM_readText _ _).2 same

theorem sets_iff (read : Json → Reading β) (is : Option Json → β → Prop) (default : β)
    (each : ∀ value after, read value.tidy = .ok after ↔ is (some value) after)
    (absent : ∀ after, is none after ↔ default = after) (found : Option Json) (after : β) :
    Sets read (found.map Json.tidy) default after ↔ is found after := by
  cases found with
  | none => exact (absent after).symm
  | some value => exact each value after

theorem setsAll_iff (members : List (String × Json)) (response : HttpResponse) :
    SetsAll (Json.sortEntries (Json.tidyEntries members)) empty response ↔ Describes members response := by
  have found (key : String) : (Json.sortEntries (Json.tidyEntries members)).lookup key =
      (Json.last? key members).map Json.tidy := by
    rw [Json.sortEntries_tidyEntries, Json.lookup_map, Json.lookup_sortEntries]
  have status := sets_iff readStatus IsStatus none readStatus_eq_ok
    fun status => ⟨by rintro ⟨⟩; rfl, by rintro rfl; exact .absent⟩
  have text := sets_iff readTextOption IsText none readTextOption_eq_ok
    fun text => ⟨by rintro ⟨⟩; rfl, by rintro rfl; exact .absent⟩
  have headers := sets_iff readHeaders AreHeaders [] readHeaders_eq_ok
    fun headers => ⟨by rintro ⟨⟩; rfl, by rintro rfl; exact .absent⟩
  rw [SetsAll, found, found, found, found]
  constructor
  · rintro ⟨one, two, three, four⟩
    exact ⟨(status _ _).1 one, (text _ _).1 two, (text _ _).1 three, (headers _ _).1 four⟩
  · rintro ⟨one, two, three, four⟩
    exact ⟨(status _ _).2 one, (text _ _).2 two, (text _ _).2 three, (headers _ _).2 four⟩

/-! ### Whole texts -/

theorem distinct_of_ordered (entries : List (String × α)) (ordered : Json.Ordered entries) :
    entries.Pairwise fun first second => first.1 ≠ second.1 :=
  ordered.imp fun less => ne_of_lt less

theorem read_of_object (members : List (String × Json)) (text : String) (spelled : (Json.object members).Document text)
    (response : HttpResponse) : read text = .ok response ↔ Describes members response := by
  have parsed := (Json.parse?_eq_some_iff text _).2 ⟨_, spelled, rfl⟩
  rw [Json.tidy] at parsed
  rw [← setsAll_iff, ← foldlM_setField _ (distinct_of_ordered _ (Json.ordered_sortEntries _)), read, parsed]
  simp only
  cases (Json.sortEntries (Json.tidyEntries members)).foldlM setField empty with
  | ok after => simp [pure, Except.pure]
  | error complaint => simp [throw, throwThe, MonadExceptOf.throw]

theorem read_of_other (document : Json) (text : String) (spelled : document.Document text)
    (other : ∀ members, document ≠ .object members) :
    read text = .error (.mismatch (.other "HTTP response must be a JSON object")) := by
  have parsed := (Json.parse?_eq_some_iff text _).2 ⟨document, spelled, rfl⟩
  rw [read, parsed]
  cases document with
  | object members => exact absurd rfl (other members)
  | _ => rfl

theorem read_eq_malformed (text : String) :
    read text = .error .malformed ↔ ∀ document : Json, ¬ document.Document text := by
  constructor
  · intro refused document spelled
    have parsed := (Json.parse?_eq_some_iff text _).2 ⟨document, spelled, rfl⟩
    rw [read, parsed] at refused
    split at refused
    · next same => cases same
    · split at refused <;> cases refused
    · cases refused
  · intro none
    have parsed : Json.parse? text = .none := by
      refine Option.eq_none_iff_forall_not_mem.2 fun value found => ?_
      obtain ⟨document, spelled, -⟩ := (Json.parse?_eq_some_iff text value).1 found
      exact none document spelled
    rw [read, parsed]
    rfl

theorem plain_ofTexts (headers : List (String × String)) (depth : Nat) : (Json.ofTexts headers).Plain (depth + 1) := by
  refine ⟨Nat.succ_pos depth, (Json.plainEntries_iff _ _).2 fun entry among => ?_⟩
  obtain ⟨header, -, rfl⟩ := List.mem_map.1 among
  exact trivial

theorem floatless_ofTexts (headers : List (String × String)) : (Json.ofTexts headers).Floatless := by
  refine (Json.floatlessEntries_iff _).2 fun entry among => ?_
  obtain ⟨header, -, rfl⟩ := List.mem_map.1 among
  exact trivial

structure Proper (response : HttpResponse) : Prop where
  status : ∀ n ∈ response.status, -0x80000000 ≤ n ∧ n < 0x80000000
  headers : Json.Ordered response.headers

theorem plain_toJson (response : HttpResponse) (proper : response.Proper) : response.toJson.Plain Json.maxDepth := by
  have text (value : Option String) : (Json.ofTextOption value).Plain 126 := by
    cases value <;> exact trivial
  obtain ⟨status, statusText, body, headers⟩ := response
  refine ⟨Nat.succ_pos _, ?_, text statusText, text body, plain_ofTexts headers 125, trivial⟩
  cases status with
  | none => exact trivial
  | some n =>
    have small := proper.status n rfl
    exact ⟨by omega, by omega⟩

theorem floatless_toJson (response : HttpResponse) : response.toJson.Floatless := by
  have text (value : Option String) : (Json.ofTextOption value).Floatless := by
    cases value <;> exact trivial
  obtain ⟨status, statusText, body, headers⟩ := response
  refine ⟨?_, text statusText, text body, floatless_ofTexts headers, trivial⟩
  cases status <;> exact trivial

theorem ordered_map (change : α → β) (entries : List (String × α)) (ordered : Json.Ordered entries) :
    Json.Ordered (entries.map fun entry => (entry.1, change entry.2)) :=
  List.pairwise_map.2 ordered

theorem describes_toJson (response : HttpResponse) (proper : response.Proper) :
    ∃ members, response.toJson = .object members ∧ Describes members response := by
  have text (value : Option String) : IsText (some (Json.ofTextOption value)) value := by
    cases value with
    | none => exact .null
    | some value => exact .text value
  obtain ⟨status, statusText, body, headers⟩ := response
  refine ⟨_, rfl, ?_, text statusText, text body, .texts _ headers ?_⟩
  · cases status with
    | none => exact .null
    | some n => exact .number n (proper.status n rfl).1 (proper.status n rfl).2
  · exact Json.inByteOrder_of_ordered _ (ordered_map Json.text headers proper.headers)

theorem read_toJson (response : HttpResponse) (proper : response.Proper) :
    read response.toJson.compact = .ok response := by
  obtain ⟨members, object, described⟩ := describes_toJson response proper
  have spelled := Json.document_compact response.toJson (plain_toJson response proper)
  rw [Json.reread_of_floatless _ (floatless_toJson response), object] at spelled
  rw [object]
  exact (read_of_object members _ spelled response).2 described

/-- A text is taken for an answer exactly if it is a document of an object that describes it. Any other document is
refused for what it is, and anything else as malformed. The text of an answer gives the answer back. -/
theorem read_exactly :
    (∀ text response, read text = .ok response ↔
      ∃ members, (Json.object members).Document text ∧ Describes members response) ∧
    (∀ text (document : Json), document.Document text → (∀ members, document ≠ .object members) →
      read text = .error (.mismatch (.other "HTTP response must be a JSON object"))) ∧
    (∀ text, read text = .error .malformed ↔ ∀ document : Json, ¬ document.Document text) ∧
    ∀ response : HttpResponse, response.Proper → read response.toJson.compact = .ok response := by
  refine ⟨fun text response => ⟨fun accepted => ?_, ?_⟩, fun text document spelled other =>
    read_of_other document text spelled other, read_eq_malformed, read_toJson⟩
  · by_cases spelled : ∃ document : Json, document.Document text
    · obtain ⟨document, spelled⟩ := spelled
      by_cases object : ∃ members, document = .object members
      · obtain ⟨members, rfl⟩ := object
        exact ⟨members, spelled, (read_of_object members text spelled response).1 accepted⟩
      · rw [read_of_other document text spelled fun members same => object ⟨members, same⟩] at accepted
        cases accepted
    · rw [(read_eq_malformed text).2 fun document written => spelled ⟨document, written⟩] at accepted
      cases accepted
  · rintro ⟨members, spelled, described⟩
    exact (read_of_object members text spelled response).2 described

/-- An answer with a status, without a body and with two headers is written and read. -/
theorem read_found :
    let response : HttpResponse := ⟨some 302, some "Found \"it\"", none, [("a", "1"), ("location", "/")]⟩
    response.Proper ∧ read response.toJson.compact = .ok response := by
  have proper : Proper ⟨some 302, some "Found \"it\"", none, [("a", "1"), ("location", "/")]⟩ := by
    refine ⟨?_, ?_⟩
    · rintro n ⟨⟩
      decide
    · refine .cons (fun later among => ?_) (List.pairwise_singleton _ _)
      rw [List.mem_singleton.1 among]
      exact String.lt_iff.2 (by decide)
  exact ⟨proper, read_exactly.2.2.2 _ proper⟩

theorem spells_single (depth : Nat) (key : String) (value : Json) (text : List Char)
    (spelled : Json.Spells depth value text) :
    Json.Spells (depth + 1) (.object [(key, value)]) ('\x7b' :: (Json.quotedText key ++ ':' :: text ++ ['\x7d'])) := by
  refine Json.Enclosed.some _ _ (.last _ _ (Json.spaced_of _ _ _ ?_))
  exact ⟨_, [], [], text, Json.spells_quotedText key, Json.blanks_nil, Json.blanks_nil, spelled, by simp⟩

theorem spells_minusZero (depth : Nat) :
    Json.Spells depth (.float (Json.Numeral.double ⟨true, ['0'], none, none⟩ 0 0)) ['-', '0'] := by
  have kept := Json.Numeral.kept_all ⟨true, ['0'], none, none⟩ (by decide)
  have range : Json.Numeral.InRange ⟨true, ['0'], none, none⟩ 0 0 := by
    refine ⟨?_, fun some_ => absurd rfl some_⟩
    rw [Double.rounded_zero, zero_mul]
    exact Nat.cast_pos.2 Double.limit_pos
  rw [Json.Spells]
  refine ⟨_, _, _, Json.spells_digits true 0, fun n integer => integer.notMinusZero rfl ?_, kept, range, rfl⟩
  rw [integer.same, Json.coefficient_digits]
  rfl

theorem value_single_none (depth : Nat) (key : String) (c : Char) (input : List Char)
    (notBlank : Json.isBlank c = false) (refused : Json.value depth (c :: input) = none) :
    Json.value (depth + 1) ('\x7b' :: (Json.quotedText key ++ ':' :: c :: input)) = none := by
  obtain ⟨letters, pieces, letterwise, same, whole⟩ := Json.spells_chars key.toList
  have text := Json.textBody_complete letters pieces letterwise key.toList [] (':' :: c :: input) same
  have colon : Json.skipBlanks (':' :: c :: input) = ':' :: c :: input := rfl
  have start : Json.skipBlanks (c :: input) = c :: input :=
    List.dropWhile_cons_of_neg (by rw [notBlank]; exact Bool.false_ne_true)
  have member : Json.entry (Json.value depth) (Json.quotedText key ++ ':' :: c :: input) = none := by
    rw [Json.quotedText, whole]
    simp only [List.cons_append, List.append_assoc, List.nil_append]
    rw [Json.entry, text]
    simp only [colon, start, refused]
  have quoted : Json.skipBlanks (Json.quotedText key ++ ':' :: c :: input) =
      Json.quotedText key ++ ':' :: c :: input := rfl
  have bracketed :
      Json.bracketed '\x7d' (Json.entry (Json.value depth)) (Json.quotedText key ++ ':' :: c :: input) = none := by
    rw [Json.bracketed, quoted, Json.quotedText, List.cons_append]
    simp only
    rw [if_neg (by decide), List.length_cons, Json.sequence, ← List.cons_append, ← Json.quotedText, quoted, member]
  unfold Json.value
  simp only [bracketed, Option.map_none]

theorem read_single (key : String) (c : Char) (input : List Char) (notBlank : Json.isBlank c = false)
    (refused : Json.value 126 (c :: input) = none) :
    read (String.ofList ('\x7b' :: (Json.quotedText key ++ ':' :: c :: input))) = .error .malformed := by
  have parsed : Json.parse? (String.ofList ('\x7b' :: (Json.quotedText key ++ ':' :: c :: input))) = none := by
    rw [Json.parse?, String.toList_ofList]
    have start (rest : List Char) : Json.skipBlanks ('\x7b' :: rest) = '\x7b' :: rest := rfl
    rw [start, Json.maxDepth, value_single_none 126 key c input notBlank refused]
  rw [read, parsed]
  rfl

theorem value_loneSurrogate (depth : Nat) (rest : List Char) :
    Json.value depth ('"' :: '\\' :: 'u' :: 'd' :: '8' :: '0' :: '0' :: '"' :: rest) = none := by
  unfold Json.value
  rfl

theorem read_number (numeral : Json.Numeral) (c : Char) (text : List Char) (digit : c.isDigit = true)
    (spelled : numeral.Spells (c :: text)) (refused : numeral.json? = none) :
    read (String.ofList ('\x7b' :: (Json.quotedText "x" ++ ':' :: c :: (text ++ ['\x7d'])))) = .error .malformed := by
  refine read_single "x" c _ (Json.number_front c (.inr digit)).1 ((Json.value_of_digit 126 c _ (.inr digit)).trans ?_)
  have number := Json.number_complete numeral _ ['\x7d'] spelled (Json.delimited_mark '\x7d' (by decide) [])
  rwa [refused, Option.map_none] at number

theorem spells_tooLarge : Json.Numeral.Spells ⟨false, ['1'], none, some 400⟩ ['1', 'e', '4', '0', '0'] := by
  refine .parts [] ['e', '4', '0', '0'] ⟨by simp, by simp⟩ (by decide) .none ?_
  exact .unsigned 'e' ['4', '0', '0'] (by decide) ⟨by simp, by simp⟩

theorem json?_tooLarge : Json.Numeral.json? ⟨false, ['1'], none, some 400⟩ = none := by
  have kept := Json.Numeral.kept_all ⟨false, ['1'], none, some 400⟩ (by decide)
  rw [Json.Numeral.json?_of_kept _ (fun n integer => absurd integer.whole.2 (Option.some_ne_none _)) _ _ kept]
  rfl

/-- A number between the largest double and the next power of two, and nearer to the double. -/
def edge : Json.Numeral :=
  ⟨false, ['1'], some ['7', '9', '7', '6', '9', '3', '1', '3', '4', '8', '6', '2', '3', '1', '5', '8'], some 308⟩

theorem spells_edge : edge.Spells "1.7976931348623158e308".toList := by
  refine .parts ('.' :: edge.fraction.getD []) ['e', '3', '0', '8'] ⟨by simp [edge], by simp [edge]⟩ (by decide) ?_ ?_
  · exact .some _ ⟨by simp, by simp⟩
  · exact .unsigned 'e' ['3', '0', '8'] (by decide) ⟨by simp, by simp⟩

theorem size_edge : edge.size < Double.limit := by
  have less : edge.coefficient * 10 ^ 292 < Double.limit := by decide +kernel
  have place : edge.exponent.getD 0 - ((edge.fraction.getD []).length : Int) = (292 : Nat) := rfl
  have whole := Nat.cast_lt (α := ℚ).2 less
  rwa [Nat.cast_mul, Nat.cast_pow, Nat.cast_ofNat, ← zpow_natCast, ← place] at whole

theorem json?_edge : edge.json? = none := by
  have kept := edge.kept_all (by decide +kernel)
  refine edge.json?_eq_none (fun n integer => absurd integer.whole.1 nofun) _ _ kept fun range => ?_
  have digits : edge.coefficient.log2 = 1 + 52 := by decide +kernel
  have power : (10 ^ (edge.exponent.getD 0 - ((edge.fraction.getD []).length : Int)).toNat).log2 = 918 + 52 := by
    decide +kernel
  have outside : ¬ Double.leading edge.coefficient *
      Double.leading (10 ^ (edge.exponent.getD 0 - ((edge.fraction.getD []).length : Int)).toNat) <
        (2 ^ 54 - 1) * 2 ^ 51 := by decide +kernel
  exact outside ((Json.product_iff _ _ digits power).1 range.product)

/-- Four texts that are JSON and are refused: a status that is zero with a minus sign, an escaped surrogate that stands
alone, a number far beyond the doubles, and one that exact rounding would keep among them. -/
theorem wellFormed_refused :
    let zero : Json.Numeral := ⟨true, ['0'], none, none⟩
    let large : Json.Numeral := ⟨false, ['1'], none, some 400⟩
    (zero.Spells ['-', '0'] ∧ -(zero.coefficient : Int) = 0 ∧
      (Json.object [("status", .float (zero.double 0 0))]).Document "\x7b\"status\":-0\x7d" ∧
      read "\x7b\"status\":-0\x7d" = .error (.mismatch (.wrongType (.float (zero.double 0 0)) "i32"))) ∧
    ((Json.Letter.unit 0xD800).Spells ['\\', 'u', 'd', '8', '0', '0'] ∧
      read "\x7b\"x\":\"\\ud800\"\x7d" = .error .malformed) ∧
    (large.Spells ['1', 'e', '4', '0', '0'] ∧ read "\x7b\"x\":1e400\x7d" = .error .malformed) ∧
    edge.Spells "1.7976931348623158e308".toList ∧ edge.size < Double.limit ∧
      read "\x7b\"x\":1.7976931348623158e308\x7d" = .error .malformed := by
  have spelled : (Json.object [("status", .float (Json.Numeral.double ⟨true, ['0'], none, none⟩ 0 0))]).Document
      "\x7b\"status\":-0\x7d" := Json.spaced_of _ _ _ (spells_single 126 "status" _ _ (spells_minusZero 126))
  have parsed := (Json.parse?_eq_some_iff _ _).2 ⟨_, spelled, rfl⟩
  refine ⟨⟨Json.spells_digits true 0, rfl, spelled, ?_⟩, ⟨?_, ?_⟩, ⟨spells_tooLarge, ?_⟩, spells_edge, size_edge, ?_⟩
  · rw [read, parsed]
    rfl
  · exact .long _ 'd' '8' '0' '0' 13 8 0 0 (by decide) (by decide) (by decide) (by decide) rfl
  · exact read_single "x" '"' ['\\', 'u', 'd', '8', '0', '0', '"', '\x7d'] rfl (value_loneSurrogate 126 ['\x7d'])
  · exact read_number _ '1' _ rfl spells_tooLarge json?_tooLarge
  · exact read_number edge '1' ".7976931348623158e308".toList rfl spells_edge json?_edge

end HttpResponse

end ScriptSandbox
