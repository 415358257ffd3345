import Mathlib
import ScriptSandbox.Proofs.Crossing

/-!
What decoding makes of bytes that are not UTF-8. The bytes come apart into pieces: the bytes of a character,
which become that character, and broken stretches, which become one replacement character each. A stretch is
broken where no character stands; it is as much as begins one, or else a single byte. `Splits` says this without
the decoder, and there is one way to split, so it tells what the decoded text is, and how long.
-/

namespace ScriptSandbox

theorem Units.codeBytes_toNat (c : Char) : codeBytes c.toNat = String.utf8EncodeChar c := by
  have bound : c.val.toNat < 0x110000 := Text.toNat_lt c
  have code : c.toNat = c.val.toNat := rfl
  rw [String.utf8EncodeChar.eq_1, codeBytes, code]
  generalize c.val.toNat = code at bound
  simp only [Nat.toUInt8_eq]
  split
  · rw [if_pos (by omega)]
  split
  · have first : code / 64 % 32 + 192 = 0xC0 + code / 0x40 := by omega
    have last : code % 64 + 128 = 0x80 + code % 0x40 := by omega
    rw [if_neg (by omega), if_pos (by omega), first, last]
  have last : code % 64 + 128 = 0x80 + code % 0x40 := by omega
  have middle : code / 64 % 64 + 128 = 0x80 + code / 0x40 % 0x40 := by omega
  split
  · have first : code / 4096 % 16 + 224 = 0xE0 + code / 0x1000 := by omega
    rw [if_neg (by omega), if_neg (by omega), if_pos (by omega), first, middle, last]
  · have first : code / 262144 % 8 + 240 = 0xF0 + code / 0x40000 := by omega
    have second : code / 4096 % 64 + 128 = 0x80 + code / 0x1000 % 0x40 := by omega
    rw [if_neg (by omega), if_neg (by omega), if_neg (by omega), first, second, middle, last]

namespace Lossy

/-! ### Pieces -/

/-- A part of some bytes that becomes one character. -/
inductive Piece where
  | whole (c : Char)
  | broken (stretch : List UInt8)

/-- A stretch that is not UTF-8 where `rest` comes after it. -/
structure Broken (stretch rest : List UInt8) : Prop where
  nonempty : stretch ≠ []
  noCharacter : ∀ c, ¬ String.utf8EncodeChar c <+: stretch ++ rest
  begins : stretch.length = 1 ∨ ∃ c, stretch <+: String.utf8EncodeChar c
  longest : ∀ next, rest.head? = some next → ∀ c, ¬ stretch ++ [next] <+: String.utf8EncodeChar c

namespace Piece

def bytes : Piece → List UInt8
  | whole c => String.utf8EncodeChar c
  | broken stretch => stretch

def shown : Piece → Char
  | whole c => c
  | broken _ => replacement

def growth : Piece → Nat
  | whole _ => 0
  | broken stretch => 3 - stretch.length

/-- Whether bytes that go on with `rest` come apart with this piece first. -/
def Stands (rest : List UInt8) : Piece → Prop
  | whole _ => True
  | broken stretch => Broken stretch rest

end Piece

inductive Splits : List UInt8 → List Piece → Prop
  | nil : Splits [] []
  | cons (piece : Piece) (rest : List UInt8) (pieces : List Piece) (stands : piece.Stands rest)
    (splits : Splits rest pieces) : Splits (piece.bytes ++ rest) (piece :: pieces)

theorem Broken.length_le (stretch rest : List UInt8) (isBroken : Broken stretch rest) :
    1 ≤ stretch.length ∧ stretch.length ≤ 3 := by
  have positive := List.length_pos_iff.2 isBroken.nonempty
  refine ⟨positive, ?_⟩
  obtain one | ⟨c, start⟩ := isBroken.begins
  · omega
  · have most : (String.utf8EncodeChar c).length ≤ 4 := by
      rw [String.length_utf8EncodeChar]
      exact c.utf8Size_le_four
    have shorter := start.length_le
    have differs : stretch.length ≠ (String.utf8EncodeChar c).length := fun same => by
      have all := start.eq_of_length same
      exact isBroken.noCharacter c (all ▸ List.prefix_append stretch rest)
    omega

theorem Piece.nonempty_of_stands (piece : Piece) (rest : List UInt8) (stands : piece.Stands rest) :
    piece.bytes ≠ [] := by
  cases piece with
  | whole c => exact String.utf8EncodeChar_ne_nil
  | broken stretch => exact stands.nonempty

theorem Piece.size_of_stands (piece : Piece) (rest : List UInt8) (stands : piece.Stands rest) :
    piece.shown.utf8Size = piece.bytes.length + piece.growth ∧ piece.growth ≤ 2 := by
  cases piece with
  | whole c => exact ⟨(String.length_utf8EncodeChar c).symm, Nat.zero_le 2⟩
  | broken stretch =>
    have length := Broken.length_le stretch rest stands
    change 3 = stretch.length + (3 - stretch.length) ∧ 3 - stretch.length ≤ 2
    omega

theorem Splits.size (bytes : List UInt8) (pieces : List Piece) (splits : Splits bytes pieces) :
    ((pieces.map Piece.shown).map Char.utf8Size).sum = bytes.length + (pieces.map Piece.growth).sum := by
  induction splits with
  | nil => rfl
  | cons piece rest pieces stands _ ih =>
    have size := (piece.size_of_stands rest stands).1
    simp only [List.map_cons, List.sum_cons, List.length_append, ih, size]
    omega

theorem Splits.growth_le (bytes : List UInt8) (pieces : List Piece) (splits : Splits bytes pieces) :
    (pieces.map Piece.growth).sum ≤ 2 * bytes.length := by
  induction splits with
  | nil => exact Nat.le_refl 0
  | cons piece rest pieces stands _ ih =>
    have growth := (piece.size_of_stands rest stands).2
    have positive := List.length_pos_iff.2 (piece.nonempty_of_stands rest stands)
    simp only [List.map_cons, List.sum_cons, List.length_append]
    omega

/-! ### Decoding as one list of characters -/

def Progress.settle : Progress → List UInt8 → List Char × Progress
  | progress, [] => ([], progress)
  | progress, byte :: rest =>
    ((progress.feed byte).1 ++ ((progress.feed byte).2.settle rest).1, ((progress.feed byte).2.settle rest).2)

theorem settle_append (progress : Progress) (front back : List UInt8) :
    progress.settle (front ++ back) =
      ((progress.settle front).1 ++ ((progress.settle front).2.settle back).1,
        ((progress.settle front).2.settle back).2) := by
  induction front generalizing progress with
  | nil => rfl
  | cons byte front ih =>
    rw [List.cons_append, Progress.settle, ih, Progress.settle, List.append_assoc]

theorem foldl_step (bytes : List UInt8) (text : String) (progress : Progress) :
    bytes.foldl step (text, progress) =
      ((progress.settle bytes).1.foldl String.push text, (progress.settle bytes).2) := by
  induction bytes generalizing text progress with
  | nil => rfl
  | cons byte bytes ih =>
    rw [List.foldl_cons, step, ih, Progress.settle, List.foldl_append]

theorem toList_decode (bytes : Array UInt8) :
    (decode bytes).toList = (Progress.ready.settle bytes.toList).1 ++
      (Progress.ready.settle bytes.toList).2.finish := by
  rw [decode, ← Array.foldl_toList, foldl_step]
  exact (toList_foldl_push _ _).trans (congrArg (· ++ _) (toList_foldl_push _ _))

theorem settle_character (c : Char) : Progress.ready.settle (String.utf8EncodeChar c) = ([c], .ready) := by
  have decoded := decodes_code c.toNat "" (Text.toNat_cases c)
  rw [Units.codeBytes_toNat, Char.ofNat_toNat, foldl_step] at decoded
  obtain ⟨text, progress⟩ := Prod.mk.inj decoded
  have characters := congrArg String.toList text
  rw [toList_foldl_push, String.toList_push] at characters
  exact Prod.ext characters progress

/-! ### Characters that are begun -/

def joined (bits : Nat) (tail : List UInt8) : Nat :=
  tail.foldl (fun bits byte => bits * 0x40 + (byte.toNat - 0x80)) bits

theorem joined_cons (bits : Nat) (byte : UInt8) (tail : List UInt8) :
    joined bits (byte :: tail) = joined (bits * 0x40 + (byte.toNat - 0x80)) tail := by
  rw [joined, joined, List.foldl_cons]

def Completes : Nat → UInt8 → UInt8 → List UInt8 → Prop
  | 0, _, _, tail => tail = []
  | missing + 1, least, greatest, tail =>
    ∃ next rest, tail = next :: rest ∧ (least ≤ next ∧ next ≤ greatest) ∧ Completes missing 0x80 0xBF rest

theorem exists_completes (missing : Nat) (least greatest : UInt8) (range : least ≤ greatest) :
    ∃ tail, Completes missing least greatest tail := by
  induction missing generalizing least greatest with
  | zero => exact ⟨[], rfl⟩
  | succ missing ih =>
    obtain ⟨rest, completes⟩ := ih 0x80 0xBF (by decide)
    exact ⟨least :: rest, least, rest, rfl, ⟨UInt8.le_refl least, range⟩, completes⟩

theorem encode_ofNat (code : Nat) (range : code < 0xD800 ∨ 0xDFFF < code ∧ code < 0x110000) :
    String.utf8EncodeChar (Char.ofNat code) = Units.codeBytes code := by
  have whole : (Char.ofNat code).toNat = code := by
    rw [Char.ofNat, dif_pos range]
    rfl
  rw [← Units.codeBytes_toNat, whole]

theorem toUInt8_eq_of_toNat (n : Nat) (byte : UInt8) (same : n = byte.toNat) : n.toUInt8 = byte := by
  rw [same]
  exact UInt8.ofNat_toNat

def Spells (front : List UInt8) (missing : Nat) (least greatest : UInt8) (bits : Nat) : Prop :=
  ∀ tail, Completes missing least greatest tail →
    String.utf8EncodeChar (Char.ofNat (joined bits tail)) = front ++ tail

theorem spells_two (first : UInt8) (low : 0xC2 ≤ first.toNat) (high : first.toNat < 0xE0) :
    Spells [first] 1 0x80 0xBF (first.toNat - 0xC0) := by
  rintro _ ⟨second, _, rfl, ⟨least, greatest⟩, rfl⟩
  rw [UInt8.le_iff_toNat_le] at least greatest
  change 0x80 ≤ _ at least
  change _ ≤ 0xBF at greatest
  change String.utf8EncodeChar (Char.ofNat ((first.toNat - 0xC0) * 0x40 + (second.toNat - 0x80))) = [first, second]
  rw [encode_ofNat _ (by omega), Units.codeBytes, if_neg (by omega), if_pos (by omega),
    toUInt8_eq_of_toNat _ first (by omega), toUInt8_eq_of_toNat _ second (by omega)]

theorem le_of_ite (first special strict loose : UInt8) (n : Nat) (order : loose.toNat ≤ strict.toNat)
    (least : (if first = special then strict else loose).toNat ≤ n) :
    loose.toNat ≤ n ∧ (first.toNat = special.toNat → strict.toNat ≤ n) := by
  split at least
  · exact ⟨Nat.le_trans order least, fun _ => least⟩
  · next other => exact ⟨least, fun same => absurd (UInt8.toNat_inj.1 same) other⟩

theorem ge_of_ite (first special strict loose : UInt8) (n : Nat) (order : strict.toNat ≤ loose.toNat)
    (greatest : n ≤ (if first = special then strict else loose).toNat) :
    n ≤ loose.toNat ∧ (first.toNat = special.toNat → n ≤ strict.toNat) := by
  split at greatest
  · exact ⟨Nat.le_trans greatest order, fun _ => greatest⟩
  · next other => exact ⟨greatest, fun same => absurd (UInt8.toNat_inj.1 same) other⟩

theorem spells_three (first : UInt8) (low : 0xE0 ≤ first.toNat) (high : first.toNat < 0xF0) :
    Spells [first] 2 (if first = 0xE0 then 0xA0 else 0x80) (if first = 0xED then 0x9F else 0xBF)
      (first.toNat - 0xE0) := by
  rintro _ ⟨second, _, rfl, ⟨least, greatest⟩, third, _, rfl, ⟨least', greatest'⟩, rfl⟩
  rw [UInt8.le_iff_toNat_le] at least greatest least' greatest'
  obtain ⟨above, aboveE0⟩ := le_of_ite first _ _ _ _ (by decide) least
  obtain ⟨below, belowED⟩ := ge_of_ite first _ _ _ _ (by decide) greatest
  change 0x80 ≤ _ at above least'
  change _ ≤ 0xBF at below greatest'
  change _ = 0xE0 → 0xA0 ≤ _ at aboveE0
  change _ = 0xED → _ ≤ 0x9F at belowED
  change String.utf8EncodeChar (Char.ofNat
    (((first.toNat - 0xE0) * 0x40 + (second.toNat - 0x80)) * 0x40 + (third.toNat - 0x80))) =
      [first, second, third]
  rw [encode_ofNat _ (by omega), Units.codeBytes, if_neg (by omega), if_neg (by omega), if_pos (by omega),
    toUInt8_eq_of_toNat _ first (by omega), toUInt8_eq_of_toNat _ second (by omega),
    toUInt8_eq_of_toNat _ third (by omega)]

theorem spells_four (first : UInt8) (low : 0xF0 ≤ first.toNat) (high : first.toNat < 0xF5) :
    Spells [first] 3 (if first = 0xF0 then 0x90 else 0x80) (if first = 0xF4 then 0x8F else 0xBF)
      (first.toNat - 0xF0) := by
  rintro _ ⟨second, _, rfl, ⟨least, greatest⟩, third, _, rfl, ⟨least', greatest'⟩, fourth, _, rfl,
    ⟨least'', greatest''⟩, rfl⟩
  rw [UInt8.le_iff_toNat_le] at least greatest least' greatest' least'' greatest''
  obtain ⟨above, aboveF0⟩ := le_of_ite first _ _ _ _ (by decide) least
  obtain ⟨below, belowF4⟩ := ge_of_ite first _ _ _ _ (by decide) greatest
  change 0x80 ≤ _ at above least' least''
  change _ ≤ 0xBF at below greatest' greatest''
  change _ = 0xF0 → 0x90 ≤ _ at aboveF0
  change _ = 0xF4 → _ ≤ 0x8F at belowF4
  change String.utf8EncodeChar (Char.ofNat
    ((((first.toNat - 0xF0) * 0x40 + (second.toNat - 0x80)) * 0x40 + (third.toNat - 0x80)) * 0x40 +
      (fourth.toNat - 0x80))) = [first, second, third, fourth]
  rw [encode_ofNat _ (by omega), Units.codeBytes, if_neg (by omega), if_neg (by omega), if_neg (by omega),
    toUInt8_eq_of_toNat _ first (by omega), toUInt8_eq_of_toNat _ second (by omega),
    toUInt8_eq_of_toNat _ third (by omega), toUInt8_eq_of_toNat _ fourth (by omega)]

theorem start_cases (byte : UInt8) :
    (∃ c, start byte = ([c], .ready) ∧ String.utf8EncodeChar c = [byte]) ∨
    (∃ missing least greatest bits, start byte = ([], .within (missing + 1) least greatest bits) ∧
      least ≤ greatest ∧ Spells [byte] (missing + 1) least greatest bits) ∨
    start byte = ([replacement], .ready) := by
  have compare (bound : UInt8) : byte < bound ↔ byte.toNat < bound.toNat := UInt8.lt_iff_toNat_lt
  unfold start
  by_cases one : byte < 0x80
  · have small : byte.toNat < 0x80 := (compare 0x80).1 one
    refine .inl ⟨Char.ofNat byte.toNat, if_pos one, ?_⟩
    rw [encode_ofNat _ (by omega), Units.codeBytes, if_pos small, toUInt8_eq_of_toNat _ byte rfl]
  by_cases none : byte < 0xC2
  · exact .inr (.inr (by rw [if_neg one, if_pos none]))
  have low : 0xC2 ≤ byte.toNat := Nat.not_lt.1 fun less => none ((compare 0xC2).2 less)
  by_cases two : byte < 0xE0
  · have spells := spells_two byte low ((compare 0xE0).1 two)
    refine .inr (.inl ⟨0, 0x80, 0xBF, byte.toNat - 0xC0, ?_, by decide, spells⟩)
    rw [if_neg one, if_neg none, if_pos two]
  have low : 0xE0 ≤ byte.toNat := Nat.not_lt.1 fun less => two ((compare 0xE0).2 less)
  by_cases three : byte < 0xF0
  · refine .inr (.inl ⟨1, _, _, byte.toNat - 0xE0, ?_, ?_, spells_three byte low ((compare 0xF0).1 three)⟩)
    · rw [if_neg one, if_neg none, if_neg two, if_pos three]
    · split
      · next special =>
        rw [special]
        decide
      · split <;> decide
  have low : 0xF0 ≤ byte.toNat := Nat.not_lt.1 fun less => three ((compare 0xF0).2 less)
  by_cases four : byte < 0xF5
  · refine .inr (.inl ⟨2, _, _, byte.toNat - 0xF0, ?_, ?_, spells_four byte low ((compare 0xF5).1 four)⟩)
    · rw [if_neg one, if_neg none, if_neg two, if_neg three, if_pos four]
    · split
      · next special =>
        rw [special]
        decide
      · split <;> decide
  · exact .inr (.inr (by rw [if_neg one, if_neg none, if_neg two, if_neg three, if_neg four]))

inductive Pending : List UInt8 → Progress → Prop
  | none : Pending [] .ready
  | some (stretch : List UInt8) (missing : Nat) (least greatest : UInt8) (bits : Nat) (nonempty : stretch ≠ [])
    (range : least ≤ greatest)
    (settles : Progress.ready.settle stretch = ([], .within (missing + 1) least greatest bits))
    (spells : Spells stretch (missing + 1) least greatest bits) :
    Pending stretch (.within (missing + 1) least greatest bits)

theorem Pending.settles (stretch : List UInt8) (progress : Progress) (pending : Pending stretch progress) :
    Progress.ready.settle stretch = ([], progress) := by
  cases pending with
  | none => rfl
  | some stretch missing least greatest bits nonempty range settles spells => exact settles

/-- A byte that does not go on with what is pending: that becomes a replacement character, and then the byte
does what it does between characters. -/
def Progress.Leaves (progress : Progress) (byte : UInt8) : Prop :=
  progress.feed byte = (replacement :: (start byte).1, (start byte).2)

theorem settle_singleton (progress : Progress) (byte : UInt8) : progress.settle [byte] = progress.feed byte :=
  Prod.ext (List.append_nil _) rfl

/-- What a byte does after bytes that settle nothing: it completes a character, or goes on with one, or
begins no character, or leaves a stretch behind that becomes a replacement character. -/
theorem feed_cases (stretch : List UInt8) (progress : Progress) (byte : UInt8)
    (pending : Pending stretch progress) :
    (∃ c, progress.feed byte = ([c], .ready) ∧ String.utf8EncodeChar c = stretch ++ [byte]) ∨
    (∃ later, progress.feed byte = ([], later) ∧ Pending (stretch ++ [byte]) later) ∨
    (stretch = [] ∧ progress = .ready ∧ start byte = ([replacement], .ready)) ∨
    (stretch ≠ [] ∧ progress.Leaves byte) := by
  cases pending with
  | none =>
    obtain complete | ⟨missing, least, greatest, bits, started, range, spells⟩ | refused := start_cases byte
    · exact .inl complete
    · exact .inr (.inl ⟨_, started, .some [byte] missing least greatest bits nofun range
        ((settle_singleton .ready byte).trans started) spells⟩)
    · exact .inr (.inr (.inl ⟨rfl, rfl, refused⟩))
  | some stretch missing least greatest bits nonempty range settles spells =>
    by_cases inside : least ≤ byte ∧ byte ≤ greatest
    · have fed : Progress.feed (.within (missing + 1) least greatest bits) byte =
          if missing + 1 ≤ 1 then ([Char.ofNat (bits * 0x40 + (byte.toNat - 0x80))], .ready)
          else ([], .within missing 0x80 0xBF (bits * 0x40 + (byte.toNat - 0x80))) := if_pos inside
      cases missing with
      | zero => exact .inl ⟨_, fed, spells [byte] ⟨byte, [], rfl, inside, rfl⟩⟩
      | succ missing =>
        refine .inr (.inl ⟨_, fed, .some _ missing _ _ _ (by simp) (by decide) ?_ ?_⟩)
        · have next := (settle_singleton _ byte).trans fed
          rw [settle_append, settles, next]
          rfl
        · intro tail completes
          have whole := spells (byte :: tail) ⟨byte, tail, rfl, inside, completes⟩
          rwa [joined_cons, List.append_cons] at whole
    · exact .inr (.inr (.inr ⟨nonempty, if_neg inside⟩))

/-! ### Bytes that are no character's -/

theorem feed_begins (progress : Progress) (byte : UInt8) (quiet : (progress.feed byte).1 = []) :
    (progress.feed byte).2 ≠ .ready := by
  cases progress with
  | ready =>
    change (start byte).1 = [] at quiet
    change (start byte).2 ≠ .ready
    obtain ⟨c, complete, -⟩ | ⟨missing, least, greatest, bits, started, -⟩ | refused := start_cases byte
    · rw [complete] at quiet
      cases quiet
    · rw [started]
      intro same
      cases same
    · rw [refused] at quiet
      cases quiet
  | within missing least greatest bits =>
    rw [Progress.feed] at quiet ⊢
    split at quiet
    · next inside =>
      rw [if_pos inside]
      split at quiet
      · cases quiet
      · next more =>
        rw [if_neg more]
        intro same
        cases same
    · cases quiet

theorem settles_some (progress : Progress) (bytes : List UInt8) (some : bytes ≠ [] ∨ progress ≠ .ready)
    (ends : (progress.settle bytes).2 = .ready) : (progress.settle bytes).1 ≠ [] := by
  induction bytes generalizing progress with
  | nil => exact absurd ends (some.resolve_left fun different => different rfl)
  | cons byte bytes ih =>
    intro quiet
    obtain ⟨now, later⟩ := List.append_eq_nil_iff.1 quiet
    exact ih _ (.inr (feed_begins progress byte now)) ends later

theorem not_prefix_of_leaves (stretch : List UInt8) (progress : Progress) (next : UInt8)
    (settles : Progress.ready.settle stretch = ([], progress))
    (leaves : progress.Leaves next) (c : Char) :
    ¬ stretch ++ [next] <+: String.utf8EncodeChar c := by
  rintro ⟨more, whole⟩
  have settled := settle_character c
  have again : Progress.ready.settle (next :: more) =
      ((start next).1 ++ ((start next).2.settle more).1, ((start next).2.settle more).2) := rfl
  rw [← whole, settle_append, settle_append, settles, settle_singleton, leaves] at settled
  obtain ⟨characters, ends⟩ := Prod.mk.inj settled
  have quiet : (Progress.ready.settle (next :: more)).1 = [] := by
    rw [again]
    exact (List.cons.inj characters).2
  exact settles_some .ready (next :: more) (.inl nofun) ends quiet

theorem ne_of_refused (byte : UInt8) (refused : start byte = ([replacement], .ready)) (c : Char)
    (more : List UInt8) : String.utf8EncodeChar c ≠ byte :: more := by
  intro whole
  have settled := settle_character c
  have again : Progress.ready.settle (byte :: more) =
      ((start byte).1 ++ ((start byte).2.settle more).1, ((start byte).2.settle more).2) := rfl
  rw [whole, again, refused] at settled
  obtain ⟨characters, ends⟩ := Prod.mk.inj settled
  obtain ⟨same, quiet⟩ := List.cons.inj characters
  cases more with
  | nil =>
    have lengths := congrArg List.length whole
    have three : (String.utf8EncodeChar replacement).length = 3 := by decide
    rw [← same, three] at lengths
    cases lengths
  | cons next more => exact settles_some .ready (next :: more) (.inl nofun) ends quiet

theorem broken_of_refused (byte : UInt8) (rest : List UInt8) (refused : start byte = ([replacement], .ready)) :
    Broken [byte] rest where
  nonempty := nofun
  noCharacter := by
    rintro c ⟨more, whole⟩
    cases written : String.utf8EncodeChar c with
    | nil => exact absurd written (String.utf8EncodeChar_ne_nil)
    | cons first others =>
      rw [written] at whole
      obtain ⟨rfl, -⟩ := List.cons.inj whole
      exact ne_of_refused first refused c others written
  begins := .inl rfl
  longest := by
    rintro next - c ⟨more, whole⟩
    exact ne_of_refused byte refused c (next :: more) whole.symm

theorem not_prefix_of_settles (stretch : List UInt8) (progress : Progress)
    (settles : Progress.ready.settle stretch = ([], progress)) (c : Char) :
    ¬ String.utf8EncodeChar c <+: stretch := by
  rintro ⟨more, same⟩
  rw [← same, settle_append, settle_character] at settles
  cases (Prod.mk.inj settles).1

theorem broken_of_pending (stretch rest : List UInt8) (progress : Progress) (pending : Pending stretch progress)
    (nonempty : stretch ≠ []) (leaves : ∀ next, rest.head? = some next → progress.Leaves next) :
    Broken stretch rest := by
  have settles := pending.settles
  have longest (next : UInt8) (follows : rest.head? = some next) (c : Char) :
      ¬ stretch ++ [next] <+: String.utf8EncodeChar c :=
    not_prefix_of_leaves stretch progress next settles (leaves next follows) c
  refine ⟨nonempty, fun c whole => ?_, .inr ?_, longest⟩
  · obtain inside | ⟨more, beyond⟩ := List.prefix_or_prefix_of_prefix whole (List.prefix_append stretch rest)
    · exact not_prefix_of_settles stretch progress settles c inside
    · obtain ⟨others, whole⟩ := whole
      rw [← beyond, List.append_assoc] at whole
      have same := List.append_cancel_left whole
      cases more with
      | nil =>
        rw [List.append_nil] at beyond
        exact not_prefix_of_settles stretch progress settles c (beyond ▸ List.prefix_refl stretch)
      | cons next more =>
        refine longest next (by rw [← same]; rfl) c ⟨more, ?_⟩
        rw [← beyond, List.append_assoc]
        rfl
  · cases pending with
    | none => exact absurd rfl nonempty
    | some stretch missing least greatest bits nonempty range settles spells =>
      obtain ⟨tail, completes⟩ := exists_completes (missing + 1) least greatest range
      exact ⟨_, tail, (spells tail completes).symm⟩

/-! ### Splitting -/

/-- The characters that bytes become from where the decoder stands. -/
def Progress.read (progress : Progress) (bytes : List UInt8) : List Char :=
  (progress.settle bytes).1 ++ (progress.settle bytes).2.finish

theorem read_cons (progress later : Progress) (byte : UInt8) (rest : List UInt8) (settled : List Char)
    (fed : progress.feed byte = (settled, later)) :
    progress.read (byte :: rest) = settled ++ later.read rest := by
  rw [Progress.read, Progress.settle, fed, List.append_assoc]
  rfl

theorem read_of_leaves (progress : Progress) (byte : UInt8) (rest : List UInt8) (leaves : progress.Leaves byte) :
    progress.read (byte :: rest) = replacement :: Progress.ready.read (byte :: rest) := by
  rw [read_cons progress _ byte rest _ leaves, read_cons .ready (start byte).2 byte rest (start byte).1 rfl]
  rfl

/-- Bytes come apart into pieces that show some characters. -/
def Shows (bytes : List UInt8) (characters : List Char) : Prop :=
  ∃ pieces, Splits bytes pieces ∧ pieces.map Piece.shown = characters

theorem shows_nil : Shows [] [] := ⟨[], .nil, rfl⟩

theorem shows_cons (piece : Piece) (rest : List UInt8) (characters : List Char) (stands : piece.Stands rest)
    (shows : Shows rest characters) : Shows (piece.bytes ++ rest) (piece.shown :: characters) := by
  obtain ⟨pieces, splits, rfl⟩ := shows
  exact ⟨piece :: pieces, .cons piece rest pieces stands splits, rfl⟩

theorem shows_next (byte : UInt8) (rest stretch : List UInt8) (progress : Progress)
    (pending : Pending stretch progress)
    (goes : ∀ stretch progress, Pending stretch progress → Shows (stretch ++ rest) (progress.read rest)) :
    Shows (stretch ++ byte :: rest) (progress.read (byte :: rest)) ∨
    (stretch ≠ [] ∧ progress.Leaves byte) := by
  obtain ⟨c, fed, whole⟩ | ⟨later, fed, still⟩ | ⟨rfl, rfl, refused⟩ | leaves :=
    feed_cases stretch progress byte pending
  · left
    rw [List.append_cons, ← whole, read_cons progress .ready byte rest [c] fed]
    exact shows_cons (.whole c) rest _ trivial (goes [] .ready .none)
  · left
    rw [List.append_cons, read_cons progress later byte rest [] fed]
    exact goes (stretch ++ [byte]) later still
  · left
    rw [read_cons .ready .ready byte rest [replacement] refused]
    exact shows_cons (.broken [byte]) rest _ (broken_of_refused byte rest refused) (goes [] .ready .none)
  · exact .inr leaves

theorem shows_read (rest stretch : List UInt8) (progress : Progress) (pending : Pending stretch progress) :
    Shows (stretch ++ rest) (progress.read rest) := by
  induction rest generalizing stretch progress with
  | nil =>
    cases pending with
    | none => exact shows_nil
    | some stretch missing least greatest bits nonempty range settles spells =>
      have pending := Pending.some stretch missing least greatest bits nonempty range settles spells
      exact shows_cons (.broken stretch) [] [] (broken_of_pending stretch [] _ pending nonempty nofun) shows_nil
  | cons byte rest ih =>
    obtain shows | ⟨nonempty, leaves⟩ := shows_next byte rest stretch progress pending ih
    · exact shows
    · -- After the stretch that it leaves behind, the byte stands between characters.
      obtain fresh | ⟨absurdly, -⟩ := shows_next byte rest [] .ready .none ih
      · have stands : Broken stretch (byte :: rest) := by
          refine broken_of_pending stretch _ progress pending nonempty ?_
          rintro next ⟨⟩
          exact leaves
        rw [read_of_leaves progress byte rest leaves]
        exact shows_cons (.broken stretch) (byte :: rest) _ stands fresh
      · exact absurd rfl absurdly

/-! ### One way to split -/

theorem eq_of_begins (c d : Char) (start : String.utf8EncodeChar c <+: String.utf8EncodeChar d) : c = d := by
  obtain ⟨more, whole⟩ := start
  have settled := settle_character d
  rw [← whole, settle_append, settle_character] at settled
  exact (List.cons.inj (Prod.mk.inj settled).1).1

theorem Broken.length_ge (first second rest rest' : List UInt8) (one : Broken first rest)
    (other : Broken second rest') (same : first ++ rest = second ++ rest') : second.length ≤ first.length := by
  obtain ⟨more, rfl⟩ | inside := List.prefix_or_prefix_of_prefix (List.prefix_append first rest)
    (same ▸ List.prefix_append second rest')
  · cases more with
    | nil => simp
    | cons next more =>
      rw [List.append_assoc] at same
      have follows := List.append_cancel_left same
      obtain single | ⟨c, start⟩ := other.begins
      · have positive := List.length_pos_iff.2 one.nonempty
        rw [List.length_append, List.length_cons] at single
        omega
      · refine absurd (List.IsPrefix.trans ⟨more, ?_⟩ start) (one.longest next (by rw [follows]; rfl) c)
        exact (List.append_cons first next more).symm
  · exact inside.length_le

theorem Piece.eq_of_stands (first second : Piece) (rest rest' : List UInt8) (one : first.Stands rest)
    (other : second.Stands rest') (same : first.bytes ++ rest = second.bytes ++ rest') : first = second := by
  have start : first.bytes <+: second.bytes ++ rest' := same ▸ List.prefix_append first.bytes rest
  have start' : second.bytes <+: first.bytes ++ rest := same ▸ List.prefix_append second.bytes rest'
  cases first with
  | whole c =>
    cases second with
    | whole d =>
      obtain inside | inside := List.prefix_or_prefix_of_prefix start (List.prefix_append _ rest')
      · rw [eq_of_begins c d inside]
      · rw [eq_of_begins d c inside]
    | broken stretch => exact absurd start (other.noCharacter c)
  | broken stretch =>
    cases second with
    | whole d => exact absurd start' (one.noCharacter d)
    | broken stretch' =>
      have length : stretch.length = stretch'.length :=
        Nat.le_antisymm (Broken.length_ge _ _ _ _ other one same.symm) (Broken.length_ge _ _ _ _ one other same)
      exact congrArg broken (List.append_inj_left same length)

theorem Splits.unique (bytes : List UInt8) (pieces others : List Piece) (splits : Splits bytes pieces)
    (again : Splits bytes others) : pieces = others := by
  induction splits generalizing others with
  | nil =>
    generalize nothing : [] = bytes at again
    cases again with
    | nil => rfl
    | cons piece rest pieces stands splits =>
      exact absurd (List.append_eq_nil_iff.1 nothing.symm).1 (piece.nonempty_of_stands rest stands)
  | cons piece rest pieces stands _ ih =>
    generalize whole : piece.bytes ++ rest = bytes at again
    cases again with
    | nil => exact absurd (List.append_eq_nil_iff.1 whole).1 (piece.nonempty_of_stands rest stands)
    | cons piece' rest' pieces' stands' splits' =>
      obtain rfl := piece.eq_of_stands piece' rest rest' stands stands' whole
      obtain rfl := List.append_cancel_left whole
      rw [ih pieces' splits']

theorem exists_splits (bytes : Array UInt8) :
    ∃ pieces, Splits bytes.toList pieces ∧ (decode bytes).toList = pieces.map Piece.shown := by
  obtain ⟨pieces, splits, shown⟩ := shows_read bytes.toList [] .ready .none
  exact ⟨pieces, splits, (toList_decode bytes).trans shown.symm⟩

theorem decode_of_splits (bytes : Array UInt8) (pieces : List Piece) (splits : Splits bytes.toList pieces) :
    (decode bytes).toList = pieces.map Piece.shown := by
  obtain ⟨others, again, shown⟩ := exists_splits bytes
  rw [shown, Splits.unique bytes.toList others pieces again splits]

-- A surrogate without a partner is three broken bytes, and two bytes of three are one stretch.
example : decode #[0x61, 0xED, 0xA0, 0x80, 0xE2, 0x82, 0x62] = "a\uFFFD\uFFFD\uFFFD\uFFFDb" := by decide

end Lossy

end ScriptSandbox
