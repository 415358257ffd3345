import ScriptSandbox.Proofs.JsonNumbers
import ScriptSandbox.Proofs.JsonTexts

/-!
The reader of JSON accepts exactly the documents of the grammar. Each reader of a part is held to what spells the
part (`Reads`): it takes a spelling off the front of its input, and every spelling that ends where a value may
end. What comes of a document is the value with the members of its objects in order, the last one of each key.
-/

namespace ScriptSandbox.Json

/-! ### Lists of parts -/

theorem isBlank_iff (c : Char) : isBlank c = true ↔ c ∈ [' ', '\t', '\n', '\r'] := by
  simp [isBlank, or_assoc]

theorem skipBlanks_sound (input : List Char) : ∃ blanks, Blanks blanks ∧ input = blanks ++ skipBlanks input :=
  ⟨input.takeWhile isBlank, fun c among => (isBlank_iff c).1 (List.mem_takeWhile_imp among),
    List.takeWhile_append_dropWhile.symm⟩

theorem skipBlanks_complete (blanks rest : List Char) (blank : Blanks blanks)
    (front : ∀ c, rest.head? = some c → isBlank c = false) : skipBlanks (blanks ++ rest) = rest := by
  rw [skipBlanks, List.dropWhile_append_of_pos fun c among => (isBlank_iff c).2 (blank c among)]
  cases rest with
  | nil => rfl
  | cons c rest => exact List.dropWhile_cons_of_neg (by rw [front c rfl]; exact Bool.false_ne_true)

theorem delimited_blanks (blanks rest : List Char) (blank : Blanks blanks) (ends : Delimited rest) :
    Delimited (blanks ++ rest) := by
  cases blanks with
  | nil => exact ends
  | cons b blanks =>
    rintro c ⟨⟩
    have here := blank b List.mem_cons_self
    simp only [List.mem_cons, List.not_mem_nil, or_false] at here ⊢
    tauto

/-- A reader that takes exactly the spellings of a part, and gives for it what the part stands for. -/
structure Reads (item : Reading β) (part : α → List Char → Prop) (meaning : α → β) : Prop where
  sound : ∀ input result rest, item input = some (result, rest) →
    ∃ content text, input = text ++ rest ∧ part content text ∧ meaning content = result
  complete : ∀ content text rest, part content text → Delimited rest →
    item (text ++ rest) = some (meaning content, rest)
  front : ∀ content text, part content text →
    ∃ c more, text = c :: more ∧ isBlank c = false ∧ c ≠ ']' ∧ c ≠ '\x7d'

section

variable {item : Reading β} {part : α → List Char → Prop} {meaning : α → β} (reads : Reads item part meaning)
include reads

theorem sequence_sound (close : Char) (steps : Nat) (input : List Char) (results : List β) (rest : List Char)
    (found : sequence close item steps input = some (results, rest)) :
    ∃ contents text, input = text ++ close :: rest ∧ Listed part contents text ∧ contents.map meaning = results := by
  induction steps generalizing input results with
  | zero => cases found
  | succ steps ih =>
    rw [sequence] at found
    split at found
    · cases found
    next first behind read =>
    obtain ⟨content, text, here, spelled, rfl⟩ := reads.sound _ _ _ read
    obtain ⟨before, blank, start⟩ := skipBlanks_sound input
    obtain ⟨after, blank', stop⟩ := skipBlanks_sound behind
    split at found
    · next later comma =>
      split at found
      · cases found
      next more ending others =>
      cases found
      obtain ⟨contents, text', here', listed, rfl⟩ := ih later _ others
      refine ⟨content :: contents, (before ++ text ++ after) ++ ',' :: text', ?_,
        .more content contents _ text' ?_ listed, rfl⟩
      · rw [start, here, stop, comma, here']
        simp only [List.append_assoc, List.cons_append]
      · exact ⟨before, text, after, blank, spelled, blank', rfl⟩
    · next c later _ closing =>
      split at found
      · next same =>
        cases found
        refine ⟨[content], before ++ text ++ after, ?_, .last content _ ?_, rfl⟩
        · rw [start, here, stop, closing, same]
          simp only [List.append_assoc]
        · exact ⟨before, text, after, blank, spelled, blank', rfl⟩
      · cases found
    · cases found

theorem bracketed_sound (opening close : Char) (input : List Char) (results : List β) (rest : List Char)
    (found : bracketed close item input = some (results, rest)) :
    ∃ contents text, opening :: input = text ++ rest ∧ Enclosed opening close part contents text ∧
      contents.map meaning = results := by
  rw [bracketed] at found
  split at found
  · next c later front =>
    split at found
    · next same =>
      cases found
      obtain ⟨blanks, blank, start⟩ := skipBlanks_sound input
      refine ⟨[], _, ?_, .none blanks blank, rfl⟩
      rw [start, front, same]
      simp only [List.append_assoc, List.cons_append, List.nil_append]
    · obtain ⟨contents, text, rfl, listed, rfl⟩ := sequence_sound reads close _ _ _ _ found
      refine ⟨contents, _, ?_, .some contents text listed, rfl⟩
      simp only [List.append_assoc, List.cons_append, List.nil_append]
  · cases found

theorem spaced_complete (content : α) (text : List Char) (spelled : Spaced part content text) (mark : Char)
    (marks : mark ∈ [',', ']', '\x7d']) (rest : List Char) :
    ∃ behind, item (skipBlanks (text ++ mark :: rest)) = some (meaning content, behind) ∧
      skipBlanks behind = mark :: rest := by
  obtain ⟨before, inside, after, blank, here, blank', rfl⟩ := spelled
  obtain ⟨c, more, front, notBlank, -⟩ := reads.front content inside here
  have other : isBlank mark = false := by
    fin_cases marks <;> rfl
  refine ⟨after ++ mark :: rest, ?_, ?_⟩
  · rw [List.append_assoc, List.append_assoc, skipBlanks_complete before _ blank]
    · exact reads.complete content inside _ here (delimited_blanks after _ blank' (delimited_mark mark marks rest))
    · rw [front]
      rintro d ⟨⟩
      exact notBlank
  · refine skipBlanks_complete after _ blank' ?_
    rintro d ⟨⟩
    exact other

theorem sequence_complete (close : Char) (closes : close = ']' ∨ close = '\x7d') (contents : List α) (text : List Char)
    (listed : Listed part contents text) (steps : Nat) (enough : contents.length ≤ steps) (rest : List Char) :
    sequence close item steps (text ++ close :: rest) = some (contents.map meaning, rest) := by
  have notComma : close ≠ ',' := by
    obtain rfl | rfl := closes <;> decide
  have marks : close ∈ [',', ']', '\x7d'] := by
    obtain rfl | rfl := closes <;> simp
  induction listed generalizing steps with
  | last content text spelled =>
    obtain ⟨steps, rfl⟩ := Nat.exists_eq_add_one_of_ne_zero (Nat.ne_of_gt enough)
    obtain ⟨behind, read, stop⟩ := spaced_complete reads content text spelled close marks rest
    rw [sequence, read]
    simp only [stop]
    obtain rfl | rfl := closes <;> rfl
  | more content contents first later spelled others ih =>
    obtain ⟨steps, rfl⟩ := Nat.exists_eq_add_one_of_ne_zero (Nat.ne_of_gt (Nat.zero_lt_of_lt enough))
    obtain ⟨behind, read, stop⟩ := spaced_complete reads content first spelled ',' (by simp) (later ++ close :: rest)
    rw [List.append_assoc, List.cons_append, sequence, read]
    simp only [stop, ih steps (Nat.le_of_succ_le_succ enough)]
    rfl

theorem spaced_front (content : α) (text : List Char) (spelled : Spaced part content text) (rest : List Char) :
    ∃ c more, skipBlanks (text ++ rest) = c :: more ∧ c ≠ ']' ∧ c ≠ '\x7d' := by
  obtain ⟨before, inside, after, blank, here, -, rfl⟩ := spelled
  obtain ⟨c, more, rfl, notBlank, notBracket, notBrace⟩ := reads.front content inside here
  refine ⟨c, more ++ (after ++ rest), ?_, notBracket, notBrace⟩
  rw [List.append_assoc, List.append_assoc, skipBlanks_complete before _ blank]
  · rfl
  · rintro d ⟨⟩
    exact notBlank

theorem listed_front (contents : List α) (text : List Char) (listed : Listed part contents text) (rest : List Char) :
    ∃ c more, skipBlanks (text ++ rest) = c :: more ∧ c ≠ ']' ∧ c ≠ '\x7d' := by
  cases listed with
  | last content text spelled => exact spaced_front reads content text spelled rest
  | more content contents first later spelled others =>
    rw [List.append_assoc]
    exact spaced_front reads content first spelled _

theorem length_le_listed (contents : List α) (text : List Char) (listed : Listed part contents text) :
    contents.length ≤ text.length := by
  induction listed with
  | last content text spelled =>
    obtain ⟨before, inside, after, -, here, -, rfl⟩ := spelled
    obtain ⟨c, more, rfl, -⟩ := reads.front content inside here
    simp only [List.length_append, List.length_cons, List.length_nil]
    omega
  | more content contents first later spelled others ih =>
    simp only [List.length_append, List.length_cons]
    omega

theorem bracketed_complete (opening close : Char) (closes : close = ']' ∨ close = '\x7d') (contents : List α)
    (text : List Char) (enclosed : Enclosed opening close part contents text) (rest : List Char) :
    ∃ input, text ++ rest = opening :: input ∧ bracketed close item input = some (contents.map meaning, rest) := by
  have other : isBlank close = false := by
    obtain rfl | rfl := closes <;> rfl
  cases enclosed with
  | none blanks blank =>
    refine ⟨blanks ++ close :: rest, by simp, ?_⟩
    rw [bracketed, skipBlanks_complete blanks _ blank (by rintro d ⟨⟩; exact other)]
    exact if_pos rfl
  | some _ inside listed =>
    refine ⟨inside ++ close :: rest, by simp, ?_⟩
    obtain ⟨c, more, front, notBracket, notBrace⟩ := listed_front reads contents inside listed (close :: rest)
    have long := length_le_listed reads contents inside listed
    rw [bracketed, front]
    simp only
    rw [if_neg]
    · exact sequence_complete reads close closes contents inside listed _
        (long.trans (by rw [List.length_append]; omega)) rest
    · obtain rfl | rfl := closes
      · exact notBracket
      · exact notBrace

end

/-! ### Values -/

mutual

def tidy : Json → Json
  | .array items => .array (tidyItems items)
  | .object entries => .object (sortEntries (tidyEntries entries))
  | other => other

def tidyItems : List Json → List Json
  | [] => []
  | item :: rest => item.tidy :: tidyItems rest

def tidyEntries : List (String × Json) → List (String × Json)
  | [] => []
  | (key, value) :: rest => (key, value.tidy) :: tidyEntries rest

end

theorem tidyItems_eq (items : List Json) : tidyItems items = items.map tidy := by
  induction items with
  | nil => rfl
  | cons item rest ih => rw [tidyItems, ih, List.map_cons]

theorem tidyEntries_eq (entries : List (String × Json)) :
    tidyEntries entries = entries.map fun entry => (entry.1, entry.2.tidy) := by
  induction entries with
  | nil => rfl
  | cons entry rest ih => rw [tidyEntries, ih, List.map_cons]

theorem spellsText_front (value : String) (text : List Char) (spelled : SpellsText value text) :
    ∃ more, text = '"' :: more := by
  obtain ⟨inside, -, rfl⟩ := spelled
  exact ⟨_, rfl⟩

theorem reads_member (item : Reading Json) (part : Json → List Char → Prop) (reads : Reads item part tidy) :
    Reads (entry item) (SpellsMember part) fun member => (member.1, member.2.tidy) where
  sound input result rest found := by
    unfold entry at found
    split at found
    · next input =>
      split at found
      · cases found
      next key behind text =>
      split at found
      · next later colon =>
        split at found
        · cases found
        next value ending read =>
        cases found
        obtain ⟨chars, inside, whole, spelled, rfl⟩ := textBody_sound _ _ _ _ text
        obtain ⟨before, blank, stop⟩ := skipBlanks_sound behind
        obtain ⟨after, blank', start⟩ := skipBlanks_sound later
        obtain ⟨content, written, here, valued, rfl⟩ := reads.sound _ _ _ read
        refine ⟨(key, content), _, ?_,
          ⟨'"' :: (inside ++ ['"']), before, after, written, ⟨inside, ?_, rfl⟩, blank, blank',
          valued, rfl⟩, rfl⟩
        · rw [stop, colon, start, here]
          simp only [List.cons_append, List.append_assoc, List.nil_append]
        · rw [whole]
          exact spelled
      · cases found
    · cases found
  complete content text rest spelled ends := by
    obtain ⟨key, before, after, written, ⟨inside, ⟨letters, pieces, letterwise, same, rfl⟩, rfl⟩,
      blank, blank', valued, rfl⟩ :=
      spelled
    obtain ⟨c, more, front, notBlank, -⟩ := reads.front _ _ valued
    have text := textBody_complete letters pieces letterwise content.1.toList []
      (before ++ ':' :: (after ++ (written ++ rest)))
      same
    have stop : skipBlanks (before ++ ':' :: (after ++ (written ++ rest))) = ':' :: (after ++ (written ++ rest)) :=
      skipBlanks_complete before _ blank (by rintro d ⟨⟩; rfl)
    have start : skipBlanks (after ++ (written ++ rest)) = written ++ rest :=
      skipBlanks_complete after _ blank' (by rw [front]; rintro d ⟨⟩; exact notBlank)
    simp only [List.cons_append, List.append_assoc, List.nil_append]
    rw [entry, text]
    simp only [stop, start, reads.complete _ _ _ valued ends]
    simp
  front content text spelled := by
    obtain ⟨key, before, after, written, named, -, -, -, rfl⟩ := spelled
    obtain ⟨more, rfl⟩ := spellsText_front _ _ named
    exact ⟨'"', _, rfl, rfl, by decide, by decide⟩

theorem ne_of_isDigit (c other : Char) (digit : c.isDigit = true) (not : other.isDigit = false) : c ≠ other := by
  rintro rfl
  rw [digit] at not
  cases not

theorem value_of_digit (depth : Nat) (c : Char) (rest : List Char) (front : c = '-' ∨ c.isDigit = true) :
    value depth (c :: rest) = number (c :: rest) := by
  have other (d : Char) (minus : '-' ≠ d) (digit : d.isDigit = false) : c ≠ d := by
    obtain rfl | front := front
    · exact minus
    · exact ne_of_isDigit c d front digit
  unfold value
  split
  · next same => exact absurd (List.cons.inj same).1 (other '"' (by decide) rfl)
  · next same => exact absurd (List.cons.inj same).1 (other 'n' (by decide) rfl)
  · next same => exact absurd (List.cons.inj same).1 (other 't' (by decide) rfl)
  · next same => exact absurd (List.cons.inj same).1 (other 'f' (by decide) rfl)
  · next same => exact absurd (List.cons.inj same).1 (other '[' (by decide) rfl)
  · next same => exact absurd (List.cons.inj same).1 (other '\x7b' (by decide) rfl)
  · rfl

theorem enclosed_front (opening closing : Char) (part : α → List Char → Prop) (contents : List α) (text : List Char)
    (enclosed : Enclosed opening closing part contents text) : ∃ more, text = opening :: more := by
  cases enclosed with
  | none blanks blank => exact ⟨_, rfl⟩
  | some contents inside listed => exact ⟨_, rfl⟩

theorem number_front (c : Char) (front : c = '-' ∨ c.isDigit = true) : isBlank c = false ∧ c ≠ ']' ∧ c ≠ '\x7d' := by
  obtain rfl | digit := front
  · exact ⟨rfl, by decide, by decide⟩
  · have other := ne_of_isDigit c
    refine ⟨?_, other ']' digit rfl, other '\x7d' digit rfl⟩
    simp [isBlank, other ' ' digit rfl, other '\t' digit rfl, other '\n' digit rfl, other '\r' digit rfl]

theorem spells_value_front (depth : Nat) (value : Json) (text : List Char) (spelled : Spells depth value text) :
    ∃ c more, text = c :: more ∧ isBlank c = false ∧ c ≠ ']' ∧ c ≠ '\x7d' := by
  have numeric (numeral : Numeral) (written : numeral.Spells text) :
      ∃ c more, text = c :: more ∧ isBlank c = false ∧ c ≠ ']' ∧ c ≠ '\x7d' := by
    obtain ⟨c, more, same, front⟩ := spells_front numeral text written
    exact ⟨c, more, same, number_front c front⟩
  cases value with
  | null =>
    rw [Spells] at spelled
    exact ⟨'n', _, spelled, rfl, by decide, by decide⟩
  | boolean b =>
    cases b with
    | true =>
      rw [Spells] at spelled
      exact ⟨'t', _, spelled, rfl, by decide, by decide⟩
    | false =>
      rw [Spells] at spelled
      exact ⟨'f', _, spelled, rfl, by decide, by decide⟩
  | integer n =>
    rw [Spells] at spelled
    obtain ⟨numeral, written, -⟩ := spelled
    exact numeric numeral written
  | float x =>
    rw [Spells] at spelled
    obtain ⟨numeral, -, -, written, -⟩ := spelled
    exact numeric numeral written
  | text value =>
    rw [Spells] at spelled
    obtain ⟨more, same⟩ := spellsText_front value text spelled
    exact ⟨'"', more, same, rfl, by decide, by decide⟩
  | array items =>
    cases depth with
    | zero => exact spelled.elim
    | succ depth =>
      obtain ⟨more, same⟩ := enclosed_front _ _ _ _ _ spelled
      exact ⟨'[', more, same, rfl, by decide, by decide⟩
  | object members =>
    cases depth with
    | zero => exact spelled.elim
    | succ depth =>
      obtain ⟨more, same⟩ := enclosed_front _ _ _ _ _ spelled
      exact ⟨'\x7b', more, same, rfl, by decide, by decide⟩

section

variable (depth : Nat) (deeper : ∀ smaller, depth = smaller + 1 → Reads (value smaller) (Spells smaller) tidy)
include deeper

theorem value_sound (input : List Char) (result : Json) (rest : List Char)
    (found : value depth input = some (result, rest)) :
    ∃ content text, input = text ++ rest ∧ Spells depth content text ∧ content.tidy = result := by
  unfold value at found
  split at found
  · next input =>
    obtain ⟨⟨written, behind⟩, read, same⟩ := Option.map_eq_some_iff.1 found
    cases same
    obtain ⟨chars, inside, whole, spelled, rfl⟩ := textBody_sound _ _ _ _ read
    refine ⟨.text written, '"' :: (inside ++ ['"']), by simp, ?_, rfl⟩
    rw [Spells]
    refine ⟨inside, ?_, rfl⟩
    rw [whole]
    exact spelled
  · cases found
    exact ⟨.null, _, rfl, by rw [Spells], rfl⟩
  · cases found
    exact ⟨.boolean true, _, rfl, by rw [Spells], rfl⟩
  · cases found
    exact ⟨.boolean false, _, rfl, by rw [Spells], rfl⟩
  · next input =>
    cases depth with
    | zero => cases found
    | succ depth =>
      obtain ⟨⟨items, behind⟩, read, same⟩ := Option.map_eq_some_iff.1 found
      cases same
      obtain ⟨contents, text, here, enclosed, rfl⟩ := bracketed_sound (deeper depth rfl) '[' ']' input items rest read
      exact ⟨.array contents, text, here, enclosed, by rw [tidy, tidyItems_eq]⟩
  · next input =>
    cases depth with
    | zero => cases found
    | succ depth =>
      obtain ⟨⟨entries, behind⟩, read, same⟩ := Option.map_eq_some_iff.1 found
      cases same
      obtain ⟨contents, text, here, enclosed, rfl⟩ :=
        bracketed_sound (reads_member _ _ (deeper depth rfl)) '\x7b' '\x7d' input entries rest read
      exact ⟨.object contents, text, here, enclosed, by rw [tidy, tidyEntries_eq]⟩
  · obtain ⟨text, here, ⟨n, rfl, spelled⟩ | ⟨x, rfl, spelled⟩⟩ := number_cases input rest result found
    · exact ⟨.integer n, text, here, by rw [Spells]; exact spelled, rfl⟩
    · exact ⟨.float x, text, here, by rw [Spells]; exact spelled, rfl⟩

theorem value_complete (content : Json) (text rest : List Char) (spelled : Spells depth content text)
    (ends : Delimited rest) : value depth (text ++ rest) = some (content.tidy, rest) := by
  have numeric (numeral : Numeral) (written : numeral.Spells text) :
      value depth (text ++ rest) = number (text ++ rest) := by
    obtain ⟨c, more, rfl, front⟩ := spells_front numeral text written
    exact value_of_digit depth c (more ++ rest) front
  cases content with
  | null =>
    rw [Spells] at spelled
    rw [spelled]
    unfold value
    rfl
  | boolean b =>
    cases b with
    | true =>
      rw [Spells] at spelled
      rw [spelled]
      unfold value
      rfl
    | false =>
      rw [Spells] at spelled
      rw [spelled]
      unfold value
      rfl
  | integer n =>
    rw [Spells] at spelled
    obtain ⟨numeral, written, -⟩ := id spelled
    exact (numeric numeral written).trans (number_integer n text rest spelled ends)
  | float x =>
    rw [Spells] at spelled
    obtain ⟨numeral, -, -, written, -⟩ := id spelled
    exact (numeric numeral written).trans (number_float x text rest spelled ends)
  | text written =>
    rw [Spells] at spelled
    obtain ⟨inside, ⟨letters, pieces, letterwise, same, rfl⟩, rfl⟩ := spelled
    have read := textBody_complete letters pieces letterwise written.toList [] rest same
    simp only [List.cons_append, List.append_assoc, List.nil_append]
    unfold value
    simp [read, tidy]
  | array items =>
    cases depth with
    | zero => exact spelled.elim
    | succ depth =>
      obtain ⟨input, here, read⟩ := bracketed_complete (deeper depth rfl) '[' ']' (.inl rfl) items text spelled rest
      rw [here]
      unfold value
      simp only [read, Option.map_some]
      rw [tidy, tidyItems_eq]
  | object members =>
    cases depth with
    | zero => exact spelled.elim
    | succ depth =>
      obtain ⟨input, here, read⟩ :=
        bracketed_complete (reads_member _ _ (deeper depth rfl)) '\x7b' '\x7d' (.inr rfl) members text spelled rest
      rw [here]
      unfold value
      simp only [read, Option.map_some]
      rw [tidy, tidyEntries_eq]

end

theorem reads_value (depth : Nat) : Reads (value depth) (Spells depth) tidy := by
  induction depth with
  | zero =>
    have deeper (smaller : Nat) (same : 0 = smaller + 1) : Reads (value smaller) (Spells smaller) tidy :=
      absurd same (Nat.succ_ne_zero smaller).symm
    exact ⟨value_sound 0 deeper, value_complete 0 deeper, spells_value_front 0⟩
  | succ depth ih =>
    have deeper (smaller : Nat) (same : depth + 1 = smaller + 1) : Reads (value smaller) (Spells smaller) tidy :=
      Nat.succ.inj same ▸ ih
    exact ⟨value_sound _ deeper, value_complete _ deeper, spells_value_front _⟩

theorem delimited_nil : Delimited [] := by
  rintro c ⟨⟩

/-- A text is read exactly if it is a document, and what is read is the document with its objects in order. -/
theorem parse?_eq_some_iff (text : String) (value : Json) :
    parse? text = some value ↔ ∃ document : Json, document.Document text ∧ document.tidy = value := by
  have reads := reads_value maxDepth
  obtain ⟨before, blank, start⟩ := skipBlanks_sound text.toList
  rw [parse?]
  constructor
  · intro found
    split at found
    · next result rest read =>
      split at found
      · next ended =>
        cases found
        obtain ⟨document, inside, here, spelled, same⟩ := reads.sound _ _ _ read
        obtain ⟨after, blank', stop⟩ := skipBlanks_sound rest
        rw [List.isEmpty_iff.1 ended, List.append_nil] at stop
        refine ⟨document, ⟨before, inside, rest, blank, spelled, by rw [stop]; exact blank', ?_⟩, same⟩
        rw [start, here, List.append_assoc]
      · cases found
    · cases found
  · rintro ⟨document, ⟨before, inside, after, blank, spelled, blank', whole⟩, rfl⟩
    obtain ⟨c, more, front, notBlank, -⟩ := reads.front document inside spelled
    have begins : skipBlanks (before ++ (inside ++ after)) = inside ++ after :=
      skipBlanks_complete before _ blank (by rw [front]; rintro d ⟨⟩; exact notBlank)
    have ends : skipBlanks (after ++ []) = [] := skipBlanks_complete after [] blank' (by rintro d ⟨⟩)
    have delimited := delimited_blanks after [] blank' delimited_nil
    rw [List.append_nil] at ends delimited
    rw [whole, List.append_assoc, begins, reads.complete document inside after spelled delimited]
    simp only [ends]
    rfl

end ScriptSandbox.Json
