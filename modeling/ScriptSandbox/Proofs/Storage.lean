import Mathlib
import ScriptSandbox.Console

/-!
The storage behind a console, where any request for more of it may be refused. Sizes are numbers of a machine
word: an append adds, doubles and subtracts them, and none of this ever leaves the word. A refused request costs
the data of that append and nothing else. The storage never shrinks, and it at least doubles whenever it grows,
unless it reaches the cap; so over the whole life of a console it grows only as often as the cap has doublings
of the storage that it starts with.
-/

namespace ScriptSandbox.Console

/-- An allocator of a machine whose sizes have so many bits. It may refuse any request, and refuses those that
are too large for a signed size. -/
structure Allocator (bits : Nat) where
  grants : (size : Nat) → Bool
  signed : ∀ size, grants size = true → size < 2 ^ (bits - 1)

/-! ### Appending in machine sizes -/

def sum? (bits first second : Nat) : Option Nat :=
  if first + second < 2 ^ bits then some (first + second) else none

def double? (bits size : Nat) : Option Nat :=
  if size * 2 < 2 ^ bits then some (size * 2) else none

def difference? (first second : Nat) : Option Nat :=
  if second ≤ first then some (first - second) else none

/-- An append that ends without a result as soon as a sum, a double or a difference is no size. Storage is
asked for by how much is missing, and granted exactly. -/
def appendSized (bits : Nat) (grants : Nat → Bool) (console : Console) (data : Array UInt8) :
    Option Console :=
  if data.isEmpty then some console
  else if console.limit ≤ console.bytes.size then some { console with truncated := true }
  else do
    let available ← difference? console.limit console.bytes.size
    let fitting := min data.size available
    let marked := { console with truncated := console.truncated || fitting < data.size }
    let required ← sum? bits console.bytes.size fitting
    let written := console.bytes ++ data.extract 0 fitting
    if required ≤ console.capacity then return { marked with bytes := written }
    else
      let doubled ← double? bits console.capacity
      let missing ← difference? (max (min doubled console.limit) required) console.bytes.size
      let capacity ← sum? bits console.bytes.size missing
      if grants capacity then return { marked with bytes := written, capacity }
      else return marked

/-! ### What an append does -/

section

variable (grants : Nat → Bool) (console : Console) (data : Array UInt8)

def required : Nat := console.bytes.size + console.fitting data

def grows : Bool :=
  console.capacity < console.required data && grants (console.growthTarget (console.required data))

def refuses : Bool :=
  console.capacity < console.required data && !grants (console.growthTarget (console.required data))

def cut : Array UInt8 := data.extract 0 (console.fitting data)

theorem size_cut : (console.cut data).size = console.fitting data := by
  rw [cut, Array.size_extract, Nat.sub_zero, fitting]
  omega

theorem toList_cut : (console.cut data).toList = data.toList.take (console.limit - console.bytes.size) := by
  rw [cut, Array.toList_extract, List.extract_eq_take_drop, List.drop_zero, Nat.sub_zero, fitting,
    ← Array.length_toList, Nat.min_comm, ← List.take_take, List.take_length]

/-- An append in one equation: the flag tells of a cut, whether or not storage is refused, and the data, as far as
it fits, is stored unless storage is refused. -/
theorem appendIf_eq (stored : console.bytes.size ≤ console.capacity) :
    console.appendIf grants data =
      { limit := console.limit
        capacity := if console.grows grants data then console.growthTarget (console.required data)
          else console.capacity
        bytes := if console.refuses grants data then console.bytes else console.bytes ++ console.cut data
        truncated := console.truncated || decide (console.fitting data < data.size) } := by
  have settled (enough : console.required data ≤ console.capacity) :
      console.grows grants data = false ∧ console.refuses grants data = false := by
    rw [grows, refuses, decide_eq_false (Nat.not_lt.2 enough)]
    exact ⟨rfl, rfl⟩
  unfold appendIf
  by_cases nothing : data.isEmpty = true
  · have empty : data = #[] := Array.isEmpty_iff.1 nothing
    subst empty
    have none : console.fitting #[] = 0 := Nat.zero_min _
    have enough : console.required #[] ≤ console.capacity := by rwa [required, none]
    obtain ⟨still, kept⟩ := settled enough
    rw [if_pos nothing, still, kept, cut, none]
    simp
  rw [if_neg nothing]
  have positive : 0 < data.size := Array.size_pos_iff.2 (by simpa using nothing)
  by_cases full : console.limit ≤ console.bytes.size
  · have none : console.fitting data = 0 := by rw [fitting]; omega
    have enough : console.required data ≤ console.capacity := by rwa [required, none]
    obtain ⟨still, kept⟩ := settled enough
    rw [if_pos full, still, kept, cut, none, decide_eq_true positive]
    simp
  rw [if_neg full]
  by_cases enough : console.required data ≤ console.capacity
  · obtain ⟨still, kept⟩ := settled enough
    rw [still, kept]
    exact if_pos enough
  · have short : console.capacity < console.required data := Nat.lt_of_not_le enough
    rw [grows, refuses, decide_eq_true short]
    by_cases granted : grants (console.growthTarget (console.required data)) = true
    · rw [granted]
      exact (if_neg enough).trans (if_pos granted)
    · rw [Bool.eq_false_iff.2 granted]
      exact (if_neg enough).trans (if_neg granted)

/-! ### What every append keeps -/

structure Sound (bits : Nat) : Prop where
  size_le : console.bytes.size ≤ console.capacity
  capacity_le : console.capacity ≤ console.limit
  signed : console.capacity < 2 ^ (bits - 1)

theorem required_le (bits : Nat) (sound : console.Sound bits) : console.required data ≤ console.limit := by
  have size := sound.size_le
  have cap := sound.capacity_le
  rw [required, fitting]
  omega

/-- The storage that is asked for holds what has to be stored and does not exceed the cap; below that it is at
least twice the storage before. -/
theorem growthTarget_bounds (bits : Nat) (sound : console.Sound bits) :
    console.required data ≤ console.growthTarget (console.required data) ∧
      console.growthTarget (console.required data) ≤ console.limit ∧
      min (2 * console.capacity) console.limit ≤ console.growthTarget (console.required data) := by
  have fits := required_le console data bits sound
  rw [growthTarget]
  omega

end

section

variable (bits : Nat)

theorem sound_empty (limit : Nat) (wide : 16 ≤ bits) : (empty limit).Sound bits := by
  have room : 2 ^ 15 ≤ 2 ^ (bits - 1) := Nat.pow_le_pow_right (by decide) (by omega)
  refine ⟨Nat.zero_le _, Nat.min_le_right _ _, ?_⟩
  change min 1024 limit < 2 ^ (bits - 1)
  omega

theorem sound_reset (console : Console) (sound : console.Sound bits) : console.reset.Sound bits :=
  ⟨Nat.zero_le _, sound.capacity_le, sound.signed⟩

theorem sound_append (allocator : Allocator bits) (console : Console) (data : Array UInt8)
    (sound : console.Sound bits) : (console.appendIf allocator.grants data).Sound bits := by
  have size := sound.size_le
  have cap := sound.capacity_le
  have small := sound.signed
  obtain ⟨holds, fits, -⟩ := growthTarget_bounds console data bits sound
  have length : (console.bytes ++ console.cut data).size = console.required data := by
    rw [Array.size_append, size_cut, required]
  rw [appendIf_eq allocator.grants console data size]
  by_cases short : console.capacity < console.required data
  · cases granted : allocator.grants (console.growthTarget (console.required data)) with
    | true =>
      have grown := allocator.signed _ granted
      simp only [grows, refuses, short, granted, decide_true, Bool.not_true, Bool.and_true, Bool.and_false,
        if_true, Bool.false_eq_true, if_false]
      exact ⟨by rw [length]; exact holds, fits, grown⟩
    | false =>
      simp only [grows, refuses, short, granted, decide_true, Bool.not_false, Bool.and_true, Bool.and_false,
        if_true, Bool.false_eq_true, if_false]
      exact ⟨size, cap, small⟩
  · simp only [grows, refuses, short, decide_false, Bool.false_and, Bool.false_eq_true, if_false]
    exact ⟨by rw [length]; exact Nat.not_lt.1 short, cap, small⟩

theorem sum?_eq_some (first second : Nat) (small : first + second < 2 ^ bits) :
    sum? bits first second = some (first + second) := if_pos small

theorem double?_eq_some (size : Nat) (small : size * 2 < 2 ^ bits) : double? bits size = some (size * 2) :=
  if_pos small

theorem difference?_eq_some (first second : Nat) (less : second ≤ first) :
    difference? first second = some (first - second) := if_pos less

theorem capacity_append (grants : Nat → Bool) (console : Console) (data : Array UInt8)
    (sound : console.Sound bits) :
    console.capacity ≤ (console.appendIf grants data).capacity ∧
      (console.grows grants data = true ↔ console.capacity < (console.appendIf grants data).capacity) := by
  rw [appendIf_eq grants console data sound.size_le]
  dsimp only
  cases grown : console.grows grants data with
  | true =>
    have short := of_decide_eq_true (Bool.and_eq_true_iff.1 grown).1
    have more := Nat.lt_of_lt_of_le short (growthTarget_bounds console data bits sound).1
    rw [if_pos rfl]
    exact ⟨Nat.le_of_lt more, iff_of_true rfl more⟩
  | false =>
    rw [if_neg Bool.false_ne_true]
    exact ⟨Nat.le_refl _, iff_of_false Bool.false_ne_true (Nat.lt_irrefl _)⟩

theorem append_of_refuses (grants : Nat → Bool) (console : Console) (data : Array UInt8)
    (stored : console.bytes.size ≤ console.capacity) (refused : console.refuses grants data = true) :
    console.appendIf grants data =
      { console with truncated := console.truncated || decide (console.fitting data < data.size) } := by
  obtain ⟨-, denied⟩ := Bool.and_eq_true_iff.1 refused
  rw [Bool.not_eq_true'] at denied
  have still : console.grows grants data = false := by rw [grows, denied, Bool.and_false]
  rw [appendIf_eq grants console data stored, refused, still, if_pos rfl, if_neg Bool.false_ne_true]

/-- In a sound console no sum, double or difference leaves the machine's sizes. -/
theorem appendSized_eq (grants : Nat → Bool) (console : Console) (data : Array UInt8) (wide : 16 ≤ bits)
    (limited : console.limit < 2 ^ bits) (sound : console.Sound bits) :
    appendSized bits grants console data = some (console.appendIf grants data) := by
  have size := sound.size_le
  have cap := sound.capacity_le
  have doubles : 2 ^ bits = 2 ^ (bits - 1) * 2 := by
    rw [← Nat.pow_succ, Nat.succ_eq_add_one, Nat.sub_add_cancel (by omega)]
  have small := sound.signed
  have fits := required_le console data bits sound
  have asked : console.required data = console.bytes.size + console.fitting data := rfl
  unfold appendSized appendIf
  split
  · rfl
  split
  · rfl
  · next room =>
    have fitting : min data.size (console.limit - console.bytes.size) = console.fitting data := rfl
    rw [difference?_eq_some console.limit _ (by omega), Option.bind_eq_bind, Option.bind_some, fitting]
    dsimp only
    rw [sum?_eq_some bits console.bytes.size _ (by omega), Option.bind_some]
    split
    · rfl
    · next short =>
      have target : max (min (console.capacity * 2) console.limit) (console.bytes.size + console.fitting data) =
          console.growthTarget (console.bytes.size + console.fitting data) := by
        rw [growthTarget, Nat.max_comm, Nat.mul_comm]
      obtain ⟨holds, within, -⟩ := growthTarget_bounds console data bits sound
      rw [asked] at holds within
      rw [double?_eq_some bits _ (by omega), Option.bind_some, target, difference?_eq_some _ _ (by omega),
        Option.bind_some, sum?_eq_some bits _ _ (by omega), Option.bind_some, Nat.add_sub_cancel' (by omega)]
      split <;> rfl

end

/-! ### A whole life -/

inductive Event (bits : Nat) where
  | append (allocator : Allocator bits) (data : Array UInt8)
  | reset

structure Life where
  console : Console
  /-- How often the storage has grown. -/
  growths : Nat
  /-- The data of the appends since the last reset that were not refused, each as far as it fitted under the cap
  after those before it. -/
  kept : List (List UInt8)

namespace Life

def born (limit : Nat) : Life := { console := empty limit, growths := 0, kept := [] }

def after (life : Life) : Event bits → Life
  | .append allocator data =>
    { console := life.console.appendIf allocator.grants data
      growths := life.growths + (life.console.grows allocator.grants data).toNat
      kept := if life.console.refuses allocator.grants data then life.kept
        else life.kept ++ [data.toList.take (life.console.limit - life.kept.flatten.length)] }
  | .reset => { life with console := life.console.reset, kept := [] }

def led (limit : Nat) (events : List (Event bits)) : Life := events.foldl after (born limit)

/-- What holds all through a life. Behind every growth there was storage below the cap, of the initial size doubled
as often as it had grown before. -/
structure Lawful (bits limit : Nat) (life : Life) : Prop where
  cap : life.console.limit = limit
  sound : life.console.Sound bits
  stored : life.console.bytes.toList = life.kept.flatten
  doubled : min limit (1024 * 2 ^ life.growths) ≤ life.console.capacity
  earlier : ∀ before, life.growths = before + 1 → 1024 * 2 ^ before < limit

theorem lawful_born (bits limit : Nat) (wide : 16 ≤ bits) : Lawful bits limit (born limit) where
  cap := rfl
  sound := sound_empty bits limit wide
  stored := rfl
  doubled := by
    change min limit (1024 * 2 ^ 0) ≤ min 1024 limit
    omega
  earlier := nofun

theorem lawful_append (bits limit : Nat) (allocator : Allocator bits) (data : Array UInt8) (life : Life)
    (lawful : Lawful bits limit life) : Lawful bits limit (life.after (.append allocator data)) := by
  obtain ⟨cap, sound, stored, doubled, earlier⟩ := lawful
  have fits := required_le life.console data bits sound
  obtain ⟨-, -, doubles⟩ := growthTarget_bounds life.console data bits sound
  have next := appendIf_eq allocator.grants life.console data sound.size_le
  refine ⟨?_, sound_append bits allocator life.console data sound, ?_, ?_, fun before same => ?_⟩
  · rw [after, next]
    exact cap
  · have piece := toList_cut life.console data
    rw [← Array.length_toList, stored] at piece
    rw [after, next]
    dsimp only
    split
    · exact stored
    · rw [Array.toList_append, stored, piece, List.flatten_append, List.flatten_singleton]
  · rw [after, next]
    dsimp only
    cases grown : life.console.grows allocator.grants data with
    | true =>
      rw [if_pos rfl, Bool.toNat_true, Nat.pow_succ]
      omega
    | false =>
      rw [if_neg Bool.false_ne_true]
      exact doubled
  · change life.growths + (life.console.grows allocator.grants data).toNat = before + 1 at same
    cases grown : life.console.grows allocator.grants data with
    | true =>
      rw [grown, Bool.toNat_true, Nat.add_right_cancel_iff] at same
      have short := of_decide_eq_true (Bool.and_eq_true_iff.1 grown).1
      rw [← same]
      omega
    | false =>
      rw [grown] at same
      exact earlier before same

theorem lawful_after (bits limit : Nat) (event : Event bits) (life : Life) (lawful : Lawful bits limit life) :
    Lawful bits limit (life.after event) := by
  cases event with
  | append allocator data => exact lawful_append bits limit allocator data life lawful
  | reset => exact ⟨lawful.cap, sound_reset bits _ lawful.sound, rfl, lawful.doubled, lawful.earlier⟩

theorem lawful_led (bits limit : Nat) (wide : 16 ≤ bits) (events : List (Event bits)) :
    Lawful bits limit (led limit events) := by
  have run (start : Life) (lawful : Lawful bits limit start) : Lawful bits limit (events.foldl after start) := by
    induction events generalizing start with
    | nil => exact lawful
    | cons event rest ih => exact ih _ (lawful_after bits limit event start lawful)
  exact run _ (lawful_born bits limit wide)

/-- Storage that at least doubles below the cap grows no more often than the cap has doublings. -/
theorem growths_le (bits limit : Nat) (life : Life) (lawful : Lawful bits limit life) :
    (limit ≤ 1024 → life.growths = 0) ∧
      (1024 < limit → (life.growths : Int) ≤ ⌈Real.logb 2 (limit / 1024)⌉) := by
  cases grown : life.growths with
  | zero =>
    refine ⟨fun _ => rfl, fun large => Int.ceil_nonneg (Real.logb_nonneg one_lt_two ?_)⟩
    rw [le_div_iff₀ (by norm_num), one_mul]
    exact_mod_cast large.le
  | succ before =>
    have below := lawful.earlier before grown
    have positive : 0 < 2 ^ before := Nat.two_pow_pos before
    refine ⟨fun small => by omega, fun large => ?_⟩
    have quotient : (2 : Real) ^ before < limit / 1024 := by
      rw [lt_div_iff₀ (by norm_num), mul_comm]
      exact_mod_cast below
    have exponent : (before : Real) < Real.logb 2 (limit / 1024) := by
      rw [Real.lt_logb_iff_rpow_lt one_lt_two (lt_trans (by positivity) quotient), Real.rpow_natCast]
      exact quotient
    rw [Nat.cast_succ]
    exact Int.lt_iff_add_one_le.1 (Int.lt_ceil.2 exponent)

end Life

/-- Whatever is appended, whenever the console is reset and whichever requests are refused: what is stored fits in
the storage and the storage under the cap; all that an append computes stays among the machine's sizes; it makes
the storage larger exactly if a request is granted, and a refused request leaves the console as it was but for the
flag; storage never shrinks. What is stored is the data since the last reset that was not refused, in order, each
piece as far as it fitted. And the storage does not grow at all under a cap of 1024 bytes, and otherwise as often
at most as it takes to double 1024 up to the cap. -/
theorem led_sound (bits limit : Nat) (wide : 16 ≤ bits) (limited : limit < 2 ^ bits) (events : List (Event bits)) :
    let life := Life.led limit events
    life.console.bytes.size ≤ life.console.capacity ∧ life.console.capacity ≤ limit ∧
    (∀ (allocator : Allocator bits) data,
      appendSized bits allocator.grants life.console data = some (life.console.appendIf allocator.grants data) ∧
      (life.console.grows allocator.grants data = true ↔
        life.console.capacity < (life.console.appendIf allocator.grants data).capacity) ∧
      (life.console.refuses allocator.grants data = true →
        life.console.appendIf allocator.grants data =
          { life.console with
            truncated := life.console.truncated || decide (life.console.fitting data < data.size) })) ∧
    (∀ event : Event bits, life.console.capacity ≤ (life.after event).console.capacity) ∧
    life.console.bytes.toList = life.kept.flatten ∧
    (limit ≤ 1024 → life.growths = 0) ∧
    (1024 < limit → (life.growths : Int) ≤ ⌈Real.logb 2 (limit / 1024)⌉) := by
  intro life
  have lawful : Life.Lawful bits limit life := Life.lawful_led bits limit wide events
  obtain ⟨few, doublings⟩ := life.growths_le bits limit lawful
  have size := lawful.sound.size_le
  have room := lawful.sound.capacity_le
  refine ⟨size, lawful.cap ▸ room, fun allocator data => ⟨?_, ?_, ?_⟩, fun event => ?_, lawful.stored, few,
    doublings⟩
  · exact appendSized_eq bits allocator.grants life.console data wide (lawful.cap ▸ limited) lawful.sound
  · exact (capacity_append bits allocator.grants life.console data lawful.sound).2
  · exact append_of_refuses allocator.grants life.console data size
  · cases event with
    | append allocator data => exact (capacity_append bits allocator.grants life.console data lawful.sound).1
    | reset => exact Nat.le_refl _

def stingy : Allocator 64 := { grants := fun _ => false, signed := nofun }

def ample : Allocator 64 :=
  { grants := fun size => size < 2 ^ 63, signed := fun _ granted => of_decide_eq_true granted }

/-- Of two appends, each too large for the initial storage, the first is refused and the second is stored. -/
theorem led_refused_then_granted :
    let life := Life.led 3000
      [.append stingy (Array.replicate 2000 97), .append ample (Array.replicate 1800 98), .reset]
    16 ≤ 64 ∧ 3000 < 2 ^ 64 ∧ life.growths = 1 ∧ life.console.capacity = 2048 ∧
      (life.growths : Int) ≤ ⌈Real.logb 2 ((3000 : Nat) / 1024)⌉ ∧
      appendSized 64 ample.grants life.console #[99] = some (life.console.appendIf ample.grants #[99]) := by
  intro life
  obtain ⟨-, -, appended, -, -, -, few⟩ := led_sound 64 3000 (by decide) (by decide)
    [.append stingy (Array.replicate 2000 97), .append ample (Array.replicate 1800 98), .reset]
  have grown : life.growths = 1 ∧ life.console.capacity = 2048 := by decide +kernel
  exact ⟨by decide, by decide, grown.1, grown.2, few (by decide), (appended ample #[99]).1⟩

end ScriptSandbox.Console
