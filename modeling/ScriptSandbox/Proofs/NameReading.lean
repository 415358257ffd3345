import ScriptSandbox.Proofs.Crossing
import ScriptSandbox.Script.Grammar

/-!
Reading a source text that is one name and nothing else. The name is the first token and the end of the text is the
second one, so every part of the grammar either looks for something else and passes, or takes the name and leaves the
end.
-/

namespace ScriptSandbox.Script

namespace Grammar

/-! ### Parts of the grammar by themselves -/

section

variable (context : Context) (state after : State)

theorem bind_read (first : Parse α) (next : α → Parse β) (result : α)
    (read : first context state = .ok (result, after)) : (first >>= next) context state = next result context after := by
  change (first context state).bind _ = _
  rw [read]
  rfl

theorem turns_succ (step : σ → Parse (σ ⊕ α)) (count : Nat) (start : σ) :
    turns step (count + 1) start = (step start >>= fun next => match next with
      | .inl state => turns step count state
      | .inr result => pure result) := rfl

theorem goOn_once (start : σ) (step : σ → Parse (σ ⊕ α)) (result : α)
    (ended : step start context state = .ok (.inr result, after)) :
    goOn start step context state = .ok (result, after) := by
  change turns step (context.source.size + 1 + 1) start context state = _
  rw [turns_succ, bind_read context state after _ _ _ ended]
  rfl

theorem goOn_twice (start second : σ) (step : σ → Parse (σ ⊕ α)) (middle : State) (result : α)
    (goes : step start context state = .ok (.inl second, middle))
    (ended : step second context middle = .ok (.inr result, after)) :
    goOn start step context state = .ok (result, after) := by
  change turns step (context.source.size + 1 + 1) start context state = _
  rw [turns_succ, bind_read context state middle _ _ _ goes]
  change turns step (context.source.size + 1) second context middle = _
  rw [turns_succ, bind_read context middle after _ _ _ ended]
  rfl

theorem atMark_eq (text : String) : atMark text context state = (match state.token with
    | .mark found => pure (found == text)
    | _ => pure false : Parse Bool) context state := rfl

theorem atWord_eq (text : String) : atWord text context state = (match state.token with
    | .word found escaped => pure (found == text && !escaped)
    | _ => pure false : Parse Bool) context state := rfl

theorem bindableName?_eq : bindableName? context state = (match state.token with
    | .word name _ => return if isReserved (← read) name then none else some name
    | _ => return none : Parse (Option String)) context state := rfl

theorem exists_atWord (text : String) : ∃ found, atWord text context state = .ok (found, state) := by
  rw [atWord_eq]
  cases state.token <;> exact ⟨_, rfl⟩

/-! ### At the end -/

section

variable (ended : state.token = .eof)

include ended

theorem atMark_end (text : String) : atMark text context state = .ok (false, state) := by
  rw [atMark_eq, ended]
  rfl

theorem eatMark_end (text : String) : eatMark text context state = .ok (false, state) := by
  unfold eatMark
  rw [bind_read context state state _ _ _ (atMark_end context state ended text)]
  rfl

end

/-! ### At a name -/

section

variable (name : String) (named : state.token = .word name false)

include named

theorem atWord_name (text : String) (other : name ≠ text) : atWord text context state = .ok (false, state) := by
  rw [atWord_eq, named]
  change Except.ok (name == text && true, state) = _
  rw [beq_false_of_ne other]
  rfl

theorem eatWord_name (text : String) (other : name ≠ text) : eatWord text context state = .ok (false, state) := by
  unfold eatWord
  rw [bind_read context state state _ _ _ (atWord_name context state name named text other)]
  rfl

theorem bindableName?_name (free : isReserved context name = false) :
    bindableName? context state = .ok (some name, state) := by
  rw [bindableName?_eq, named]
  change Except.ok (if isReserved context name = true then none else some name, state) = _
  rw [free]
  rfl

end

end

def State.noted (state : State) (name : String) : State :=
  if state.mentions.contains name then state else { state with mentions := name :: state.mentions }

theorem State.noted_token (state : State) (name : String) : (state.noted name).token = state.token := by
  unfold State.noted
  split <;> rfl

theorem State.noted_pending (state : State) (name : String) : (state.noted name).pending = state.pending := by
  unfold State.noted
  split <;> rfl

/-! ### A name in all parts of the grammar -/

def outside (source : Token.Source) : Context := (Surroundings.outside true).context source

theorem word_of_name {β : Type} (token : Token) (name : String) (plain : name ≠ "async") (bracket word_ other : β)
    (next : String → Bool → β) : token = .word name false →
      (match token with
        | .mark "(" => bracket
        | .word "async" false => word_
        | .word word escaped => next word escaped
        | _ => other) = next name false := by
  rintro rfl
  split
  · next same => cases same
  · next same =>
    cases same
    exact absurd rfl plain
  · next same =>
    cases same
    rfl
  · next other => exact absurd rfl (other name false)

section

variable (source : Token.Source) (state after : State) (name : String) (named : state.token = .word name false)
  (free : isReserved (outside source) name = false) (plain : name ≠ "async")
  (moves : advance (outside source) state = .ok ((), after)) (ended : after.token = .eof)

include free in
theorem ne_of_free (word : String) (among : word ∈ keywords ++ strictKeywords) : name ≠ word := by
  rintro rfl
  have reserved : isReserved (outside source) name = true := by
    unfold isReserved
    rcases List.mem_append.1 among with among | among
    · rw [List.contains_iff_mem.2 among]
      rfl
    · rw [List.contains_iff_mem.2 among]
      simp [outside, Surroundings.outside, Surroundings.context]
  rw [reserved] at free
  cases free

include named free plain moves

theorem primary_name [Recursion] : primary (outside source) state = .ok (.name name, after.noted name) := by
  have other := ne_of_free source name free
  unfold primary
  rw [bind_read (outside source) state state get _ state rfl, named]
  simp only [beq_false_of_ne (other "function" (by decide)), beq_false_of_ne (other "class" (by decide)),
    beq_false_of_ne (other "this" (by decide)), beq_false_of_ne (other "null" (by decide)),
    beq_false_of_ne (other "true" (by decide)), beq_false_of_ne (other "false" (by decide)), beq_false_of_ne plain,
    Bool.and_false, Bool.false_eq_true, if_false]
  rw [bind_read (outside source) state state bindableName? _ (some name) (bindableName?_name (outside source) state name named free)]
  dsimp only
  rw [bind_read (outside source) state after advance _ () moves]
  unfold variableNamed
  cases name == "arguments" <;> rfl

theorem head_name [Recursion] : head (outside source) state = .ok (.name name, after.noted name) := by
  have other := ne_of_free source name free
  have passes (word : String) (among : word ∈ keywords ++ strictKeywords) :=
    eatWord_name (outside source) state name named word (other word among)
  unfold head
  rw [bind_read (outside source) state state _ _ _ (passes "super" (by decide)), if_neg Bool.false_ne_true,
    bind_read (outside source) state state _ _ _ (passes "import" (by decide)), if_neg Bool.false_ne_true,
    bind_read (outside source) state state _ _ _ (passes "new" (by decide)), if_neg Bool.false_ne_true]
  exact primary_name source state after name named free plain moves

include ended

theorem accesses_name [Recursion] : accesses (outside source) state = .ok (.name name, after.noted name) := by
  have last : (after.noted name).token = .eof := (after.noted_token name).trans ended
  have passes (text : String) := eatMark_end (outside source) (after.noted name) last text
  unfold accesses
  rw [bind_read (outside source) state (after.noted name) _ _ _ (head_name source state after name named free plain moves)]
  refine goOn_once (outside source) (after.noted name) (after.noted name) _ _ _ ?_
  dsimp only
  rw [bind_read (outside source) _ (after.noted name) _ _ _ (passes "."), if_neg Bool.false_ne_true,
    bind_read (outside source) _ (after.noted name) _ _ _ (passes "["), if_neg Bool.false_ne_true,
    bind_read (outside source) _ (after.noted name) _ _ _ (passes "("), if_neg Bool.false_ne_true,
    bind_read (outside source) _ (after.noted name) _ _ _ (passes "?."), if_neg Bool.false_ne_true,
    bind_read (outside source) _ (after.noted name) get _ (after.noted name) rfl, last]
  rfl

theorem unaryExpression_name [Recursion] :
    unaryExpression (outside source) state = .ok (.name name, after.noted name) := by
  have other := ne_of_free source name free
  have last : (after.noted name).token = .eof := (after.noted_token name).trans ended
  have passes (word : String) (among : word ∈ keywords ++ strictKeywords) :=
    eatWord_name (outside source) state name named word (other word among)
  unfold unaryExpression
  rw [bind_read (outside source) state state _ _ _ (passes "typeof" (by decide)), if_neg Bool.false_ne_true,
    bind_read (outside source) state state _ _ _ (passes "void" (by decide)), if_neg Bool.false_ne_true,
    bind_read (outside source) state state _ _ _ (passes "delete" (by decide)), if_neg Bool.false_ne_true]
  obtain ⟨found, looked⟩ := exists_atWord (outside source) state "await"
  rw [bind_read (outside source) state state read _ (outside source) rfl,
    bind_read (outside source) state state _ _ _ looked, if_neg (by simp [outside, Surroundings.outside, Surroundings.context]),
    bind_read (outside source) state state get _ state rfl, named]
  change (accesses >>= fun operand => _ : Parse Expression) (outside source) state = _
  rw [bind_read (outside source) state _ _ _ _ (accesses_name source state after name named free plain moves ended),
    bind_read (outside source) _ (after.noted name) get _ (after.noted name) rfl,
    bind_read (outside source) _ (after.noted name) get _ (after.noted name) rfl, last]
  cases (after.noted name).lineBefore <;> rfl

theorem binaryExpression_name (depth least : Nat) :
    @binaryExpression (within (depth + 1)) least (outside source) state = .ok (.name name, after.noted name) := by
  have last : (after.noted name).token = .eof := (after.noted_token name).trans ended
  let _ := within (depth + 1)
  have operand : (unary : Parse Expression) (outside source) state = .ok (.name name, after.noted name) :=
    @unaryExpression_name source state after name named free plain moves ended (within depth)
  unfold binaryExpression
  rw [bind_read (outside source) state state get _ state rfl, named]
  dsimp only
  rw [bind_read (outside source) state _ _ _ _ operand]
  refine goOn_once (outside source) (after.noted name) (after.noted name) _ _ _ ?_
  have none_ : operator? (outside source) (after.noted name) = .ok (none, after.noted name) := by
    unfold operator?
    rw [bind_read (outside source) (after.noted name) _ get _ _ rfl, last]
    rfl
  rw [bind_read (outside source) _ _ _ _ _ none_]
  rfl

theorem conditional_name (depth : Nat) :
    @conditional (within (depth + 2)) (outside source) state = .ok (.name name, after.noted name) := by
  have last : (after.noted name).token = .eof := (after.noted_token name).trans ended
  let _ := within (depth + 2)
  have test : (binary 0 : Parse Expression) (outside source) state = .ok (.name name, after.noted name) :=
    binaryExpression_name source state after name named free plain moves ended depth 0
  unfold conditional
  rw [bind_read (outside source) state _ _ _ _ test,
    bind_read (outside source) _ _ _ _ _ (eatMark_end (outside source) (after.noted name) last "?"),
    if_neg Bool.false_ne_true]
  rfl

theorem arrow?_name [Recursion] : arrow? (outside source) state = .ok (none, state) := by
  have looked : looksLike (do
      advance
      unless ← atMark "=>" do fail "no arrow") (outside source) state = .ok (false, state) := by
    unfold looksLike
    rw [bind_read (outside source) state after advance _ () moves,
      bind_read (outside source) after after _ _ _ (atMark_end (outside source) after ended "=>")]
    rfl
  unfold arrow?
  rw [bind_read (outside source) state state get _ state rfl,
    bind_read (outside source) state state read _ (outside source) rfl]
  refine (congrFun (congrFun (word_of_name state.token name plain _ _ _ _ named) (outside source)) state).trans ?_
  rw [bind_read (outside source) state state bindableName? _ (some name)
    (bindableName?_name (outside source) state name named free)]
  dsimp only
  rw [bind_read (outside source) state state _ _ _ looked]
  rfl

theorem assignmentExpression_name (depth : Nat) (calm : state.pending = false) (calm' : after.pending = false)
    (cover : Bool) : @assignmentExpression (within (depth + 3)) cover (outside source) state =
      .ok (.name name, after.noted name) := by
  have last : (after.noted name).token = .eof := (after.noted_token name).trans ended
  let _ := within (depth + 3)
  obtain ⟨found, looked⟩ := exists_atWord (outside source) state "yield"
  have cleared : { state with pending := false } = state := by
    rw [← calm]
  have kept : { after.noted name with pending := (after.noted name).pending || state.pending } = after.noted name := by
    rw [calm, Bool.or_false]
  have left : conditional (outside source) state = .ok (.name name, after.noted name) :=
    conditional_name source state after name named free plain moves ended (depth + 1)
  unfold assignmentExpression
  rw [bind_read (outside source) state state read _ (outside source) rfl,
    bind_read (outside source) state state _ _ _ looked,
    if_neg (by simp [outside, Surroundings.outside, Surroundings.context]),
    bind_read (outside source) state state _ _ _ (arrow?_name source state after name named free plain moves ended)]
  dsimp only
  rw [bind_read (outside source) state state get _ state rfl,
    bind_read (outside source) state state (modify fun s => { s with pending := false }) _ () (by rw [← cleared]; rfl),
    bind_read (outside source) state _ _ _ _ left,
    bind_read (outside source) _ (after.noted name) get _ (after.noted name) rfl, last]
  have waits : (after.noted name).pending = false := (after.noted_pending name).trans calm'
  dsimp only
  rw [if_neg (by decide), bind_read (outside source) _ (after.noted name) get _ (after.noted name) rfl, waits,
    Bool.false_and, if_neg Bool.false_ne_true]
  change (modify (fun s => { s with pending := s.pending || state.pending }) >>= fun _ => _ : Parse Expression)
    (outside source) (after.noted name) = _
  rw [bind_read (outside source) _ (after.noted name) (modify fun s => { s with pending := s.pending || state.pending }) _ ()
    (congrArg (fun state => Except.ok ((), state)) kept)]
  rfl

theorem value_name (depth : Nat) (calm : state.pending = false) (calm' : after.pending = false) :
    @expression (within (depth + 4)) (outside source) state = .ok (.name name, after.noted name) := by
  have last : (after.noted name).token = .eof := (after.noted_token name).trans ended
  let _ := within (depth + 4)
  have first : value (outside source) state = .ok (.name name, after.noted name) :=
    assignmentExpression_name source state after name named free plain moves ended depth calm calm' false
  unfold expression
  rw [bind_read (outside source) state _ _ _ _ first]
  refine goOn_once (outside source) (after.noted name) (after.noted name) _ _ _ ?_
  rw [bind_read (outside source) _ _ _ _ _ (eatMark_end (outside source) (after.noted name) last ","),
    if_neg Bool.false_ne_true]
  rfl

theorem expressionStatement_name (depth : Nat) (calm : state.pending = false) (calm' : after.pending = false) :
    @expressionStatement (within (depth + 4)) (outside source) state =
      .ok (.expression (.name name), after.noted name) := by
  have last : (after.noted name).token = .eof := (after.noted_token name).trans ended
  let _ := within (depth + 4)
  have whole : wholeExpression (outside source) state = .ok (.name name, after.noted name) :=
    value_name source state after name named free plain moves ended depth calm calm'
  have closes : endStatement (outside source) (after.noted name) = .ok ((), after.noted name) := by
    unfold endStatement
    rw [bind_read (outside source) _ _ _ _ _ (eatMark_end (outside source) (after.noted name) last ";"),
      if_neg Bool.false_ne_true, bind_read (outside source) _ (after.noted name) get _ (after.noted name) rfl,
      bind_read (outside source) _ _ _ _ _ (atMark_end (outside source) (after.noted name) last "\x7d"), last]
    cases (after.noted name).lineBefore <;> rfl
  unfold expressionStatement
  rw [bind_read (outside source) state state bindableName? _ (some name)
    (bindableName?_name (outside source) state name named free)]
  dsimp only
  rw [bind_read (outside source) state state get _ state rfl, bind_read (outside source) state after advance _ () moves,
    bind_read (outside source) after after _ _ _ (eatMark_end (outside source) after ended ":"), if_neg Bool.false_ne_true,
    bind_read (outside source) after state (set state) _ ⟨⟩ rfl,
    bind_read (outside source) state _ _ _ _ whole,
    bind_read (outside source) _ _ _ _ _ closes]
  rfl

theorem anyStatement_name (depth : Nat) (calm : state.pending = false) (calm' : after.pending = false) :
    @anyStatement (within (depth + 4)) (outside source) state =
      .ok (.expression (.name name), after.noted name) := by
  have other := ne_of_free source name free
  have differs (word : String) (among : word ∈ keywords ++ strictKeywords) : (name == word) = false :=
    beq_false_of_ne (other word among)
  let _ := within (depth + 4)
  unfold anyStatement
  rw [bind_read (outside source) state state get _ state rfl]
  dsimp only
  rw [named]
  dsimp only
  simp only [differs "var" (by decide), differs "let" (by decide), differs "const" (by decide),
    differs "function" (by decide), beq_false_of_ne plain, differs "class" (by decide), differs "if" (by decide),
    differs "for" (by decide), differs "while" (by decide), differs "do" (by decide), differs "break" (by decide),
    differs "continue" (by decide), differs "return" (by decide), differs "throw" (by decide), differs "try" (by decide),
    differs "switch" (by decide), differs "debugger" (by decide), differs "import" (by decide),
    differs "export" (by decide), differs "with" (by decide), Bool.or_false, Bool.false_eq_true, if_false]
  exact expressionStatement_name source state after name named free plain moves ended depth calm calm'

theorem statements_name (depth : Nat) (calm : state.pending = false) (calm' : after.pending = false) :
    @statements (within (depth + 5)) false true (outside source) state =
      .ok (([.expression (.name name)], true), after.noted name) := by
  have last : (after.noted name).token = .eof := (after.noted_token name).trans ended
  let _ := within (depth + 5)
  have one : (statement : Parse Statement) (outside source) state = .ok (.expression (.name name), after.noted name) :=
    anyStatement_name source state after name named free plain moves ended depth calm calm'
  unfold statements
  rw [bind_read (outside source) state state read _ (outside source) rfl]
  refine goOn_twice (outside source) state (after.noted name) _ ([.expression (.name name)], false, true) _
    (after.noted name) _ ?_ ?_
  · dsimp only
    rw [if_neg Bool.false_ne_true, bind_read (outside source) state state get _ state rfl, named]
    rw [bind_read (outside source) state state (pure _) _ false rfl, if_neg Bool.false_ne_true,
      bind_read (outside source) state state get _ state rfl]
    refine (bind_read (outside source) state (after.noted name) (withReader _ statement) _ _ one).trans ?_
    rw [named]
    rfl
  · dsimp only
    rw [if_neg Bool.false_ne_true, bind_read (outside source) _ (after.noted name) get _ (after.noted name) rfl, last]
    rfl

end

end Grammar

namespace Token

/-! ### The tokens of a name -/

theorem codeAt_append (source : Source) (before after : List Char) (c : Char)
    (codes : source.toList = (before ++ c :: after).map Char.toNat) : codeAt source before.length = c.toNat := by
  have found : source[before.length]? = some c.toNat := by
    rw [← Array.getElem?_toList, codes]
    simp
  simp [codeAt, Array.getD_eq_getD_getElem?, found]

theorem size_of_codes (source : Source) (chars : List Char) (codes : source.toList = chars.map Char.toNat) :
    source.size = chars.length := by
  rw [← Array.length_toList, codes, List.length_map]

theorem isEmpty_push (text : String) (c : Char) : (text.push c).isEmpty = false := by
  rw [Bool.eq_false_iff, ne_eq, String.isEmpty_iff]
  intro empty
  have chars := congrArg String.toList empty
  rw [String.toList_push] at chars
  simp at chars

theorem nameAt_rest (source : Source) (after : List Char) (rests : ∀ c ∈ after, Text.isNameRest c = true) :
    ∀ (before : List Char) (steps : Nat) (name : String), source.toList = (before ++ after).map Char.toNat →
      after.length ≤ steps → name.isEmpty = false →
      nameAt source steps before.length name false = .ok (after.foldl String.push name, source.size, false) := by
  induction after with
  | nil =>
    intro before steps name codes _ _
    have size := size_of_codes source _ codes
    rw [List.append_nil] at size
    cases steps with
    | zero =>
      rw [nameAt, size]
      rfl
    | succ steps =>
      simp only [nameAt]
      rw [if_pos (Nat.le_of_eq size), size]
      rfl
  | cons c after ih =>
    intro before steps name codes enough some_
    have size := size_of_codes source _ codes
    have code := codeAt_append source before after c codes
    have next := ih (fun c among => rests c (List.mem_cons_of_mem _ among)) (before ++ [c])
    cases steps with
    | zero => exact absurd enough (by simp)
    | succ steps =>
      have goes := next steps (name.push c) (by rw [codes, List.append_assoc]; rfl)
        (by simpa using enough) (isEmpty_push name c)
      rw [List.length_append] at goes
      have allowed : isNameRest c.toNat = true := by
        rw [isNameRest, Char.ofNat_toNat]
        exact rests c List.mem_cons_self
      simp only [nameAt]
      rw [if_neg (by rw [size, List.length_append, List.length_cons]; omega), code, some_,
        if_neg Bool.false_ne_true, if_pos allowed, Char.ofNat_toNat]
      exact goes

def otherStarts : List Nat :=
  [9, 10, 11, 12, 13, 0x20, 0xA0, 0x1680, 0x2000, 0x2001, 0x2002, 0x2003, 0x2004, 0x2005, 0x2006, 0x2007, 0x2008, 0x2009,
    0x200A, 0x2028, 0x2029, 0x202F, 0x205F, 0x3000, 0xFEFF, 34, 35, 39, 46, 47, 96, 48, 49, 50, 51, 52, 53, 54, 55, 56, 57]

theorem not_isNameStart (code : Nat) (among : code ∈ otherStarts) : Text.isNameStart (Char.ofNat code) = false := by
  have all : ∀ code ∈ otherStarts, Text.isNameStart (Char.ofNat code) = false := by decide +kernel
  exact all code among

theorem isBlank_among (code : Nat) (blank : isBlank code = true) : code ∈ otherStarts := by
  rw [isBlank, Bool.and_eq_true, decide_eq_true_iff] at blank
  obtain ⟨small, blank⟩ := blank
  have same : code.toUInt16.toNat = code := UInt16.toNat_ofNat_of_lt' small
  simp only [Number.isBlank, Bool.or_eq_true, Bool.and_eq_true, decide_eq_true_iff, beq_iff_eq, UInt16.le_iff_toNat_le,
    ← UInt16.toNat_inj, same, UInt16.reduceToNat] at blank
  have tabs : ∀ code ∈ List.range' 9 5, code ∈ otherStarts := by decide
  have spaces : ∀ code ∈ List.range' 0x2000 11, code ∈ otherStarts := by decide +kernel
  clear same small
  rcases blank with (((((((((⟨least, greatest⟩ | rfl) | rfl) | rfl) | ⟨least, greatest⟩) | rfl) | rfl) | rfl) | rfl) | rfl) | rfl
  case inl.inl.inl.inl.inl.inl.inr => exact spaces code (List.mem_range'_1.2 ⟨least, by omega⟩)
  · exact tabs code (List.mem_range'_1.2 ⟨least, by omega⟩)
  all_goals decide

theorem start_of_name (c : Char) (starts : Text.isNameStart c = true) (code : Nat) (among : code ∈ otherStarts) :
    c.toNat ≠ code := by
  rintro rfl
  have other := not_isNameStart c.toNat among
  rw [Char.ofNat_toNat, starts] at other
  cases other

section

variable (source : Source) (name : String) (first : Char) (rest : List Char) (chars : name.toList = first :: rest)
  (starts : Text.isNameStart first = true) (rests : ∀ c ∈ rest, Text.isNameRest c = true)
  (codes : source.toList = name.toList.map Char.toNat)

include chars codes

theorem size_of_name : source.size = rest.length + 1 := by
  rw [size_of_codes source _ codes, chars, List.length_cons]

theorem codeAt_name : codeAt source 0 = first.toNat := by
  refine codeAt_append source [] rest first ?_
  rw [codes, chars]
  rfl

include starts

theorem skipBlanks_name : skipBlanks source (source.size + 1) 0 false = .ok (0, false) := by
  have differs := start_of_name first starts
  have blank : isBlank first.toNat = false :=
    Bool.eq_false_iff.2 fun blank => differs _ (isBlank_among _ blank) rfl
  have line : isLineEnd first.toNat = false := by
    simp only [isLineEnd, beq_false_of_ne (differs 10 (by decide)), beq_false_of_ne (differs 13 (by decide)),
      beq_false_of_ne (differs 0x2028 (by decide)), beq_false_of_ne (differs 0x2029 (by decide)), Bool.or_false]
  simp only [skipBlanks]
  rw [if_neg (by rw [size_of_name source name first rest chars codes]; omega),
    codeAt_name source name first rest chars codes, line, blank, beq_false_of_ne (differs 47 (by decide))]
  rfl

include rests

theorem nameAt_name : nameAt source source.size 0 "" false = .ok (name, source.size, false) := by
  have size := size_of_name source name first rest chars codes
  have code := codeAt_name source name first rest chars codes
  have allowed : isNameStart first.toNat = true := by
    rw [isNameStart, Char.ofNat_toNat]
    exact starts
  have goes := nameAt_rest source rest rests [first] rest.length ("".push first) (by rw [codes, chars]; rfl)
    (Nat.le_refl _) (isEmpty_push "" first)
  have whole : rest.foldl String.push ("".push first) = name := by
    apply String.toList_inj.1
    rw [toList_foldl_push, String.toList_push, chars]
    rfl
  rw [whole] at goes
  have opened : nameAt source (rest.length + 1) 0 "" false = .ok (name, source.size, false) := by
    simp only [nameAt]
    rw [if_neg (by rw [size]; omega), code]
    have empty : "".isEmpty = true := rfl
    rw [empty, if_pos rfl, if_pos allowed, Char.ofNat_toNat]
    exact goes
  rw [← size] at opened
  exact opened

theorem scan_name : scan source 0 = .ok (.word name false, source.size) := by
  have differs := start_of_name first starts
  have size := size_of_name source name first rest chars codes
  have code := codeAt_name source name first rest chars codes
  have allowed : isNameStart first.toNat = true := by
    rw [isNameStart, Char.ofNat_toNat]
    exact starts
  have digit : isDigit first.toNat = false := by
    rw [Bool.eq_false_iff, isDigit, ne_eq, Bool.and_eq_true, decide_eq_true_iff, decide_eq_true_iff]
    rintro ⟨least, greatest⟩
    refine differs first.toNat ?_ rfl
    simp only [otherStarts, List.mem_cons, List.not_mem_nil, or_false]
    omega
  unfold scan
  dsimp only
  rw [if_neg (by rw [size]; omega), code, digit, beq_false_of_ne (differs 46 (by decide)),
    beq_false_of_ne (differs 34 (by decide)), beq_false_of_ne (differs 39 (by decide)),
    beq_false_of_ne (differs 96 (by decide)), allowed]
  change (nameAt source source.size 0 "" false).bind _ = _
  rw [nameAt_name source name first rest chars starts rests codes]
  rfl

end

theorem scan_end (source : Source) : skipBlanks source (source.size + 1) source.size false = .ok (source.size, false) ∧
    scan source source.size = .ok (.eof, source.size) := by
  constructor
  · simp only [skipBlanks]
    rw [if_pos (Nat.le_refl _)]
    rfl
  · unfold scan
    dsimp only
    rw [if_pos (Nat.le_refl _)]
    rfl

end Token

namespace Grammar

/-! ### A whole script -/

/-- A name that a script can use for a variable, and that is not a word with a meaning of its own. -/
structure IsName (name : String) : Prop where
  starts : ∃ first rest, name.toList = first :: rest ∧ Text.isNameStart first = true ∧
    ∀ c ∈ rest, Text.isNameRest c = true
  free : name ∉ keywords ++ strictKeywords

def nameProgram (name : String) : Program :=
  { varNames := [], scope := { names := [], functions := [] }, body := [.expression (.name name)], functions := #[]
    strict := true, inner := [], evaluates := false }

def openState : State :=
  { startState with stop := 0, blocks := [{ names := [], functions := [], lenient := [], before := 0 }] }

def State.atToken (state : State) (token : Token) (start stop previous : Nat) : State :=
  { state with token, start, stop, previous, lineBefore := false }

theorem advance_of (source : Token.Source) (state : State) (start stop : Nat) (token : Token)
    (skipped : Token.skipBlanks source (source.size + 1) state.stop false = .ok (start, false))
    (scanned : Token.scan source start = .ok (token, stop)) :
    advance (outside source) state = .ok ((), state.atToken token start stop state.stop) := by
  unfold advance
  rw [bind_read (outside source) state state read _ (outside source) rfl]
  rw [bind_read (outside source) state state get _ state rfl]
  dsimp only
  have skips : (liftM (Token.skipBlanks source (source.size + 1) state.stop false) : Parse (Nat × Bool)) (outside source) state =
      .ok ((start, false), state) := by
    rw [skipped]
    rfl
  have scans : (liftM (Token.scan source start) : Parse (Token × Nat)) (outside source) state =
      .ok ((token, stop), state) := by
    rw [scanned]
    rfl
  refine (bind_read (outside source) state state _ _ _ skips).trans ?_
  exact (bind_read (outside source) state state _ _ _ scans).trans rfl

theorem isReserved_of_name (source : Token.Source) (name : String) (isName : IsName name) :
    isReserved (outside source) name = false := by
  have apart := isName.free
  rw [List.mem_append, not_or] at apart
  have first : keywords.contains name = false := by
    rw [Bool.eq_false_iff, ne_eq, List.contains_iff_mem]
    exact apart.1
  have second : strictKeywords.contains name = false := by
    rw [Bool.eq_false_iff, ne_eq, List.contains_iff_mem]
    exact apart.2
  unfold isReserved
  rw [first, second]
  rfl

theorem parse_plain (source : Token.Source) (name : String) (isName : IsName name) (plain : name ≠ "async")
    (codes : source.toList = name.toList.map Char.toNat) :
    Program.parse (.outside true) source = .ok (nameProgram name) := by
  obtain ⟨first, rest, chars, starts, rests⟩ := isName.starts
  have differs := Token.start_of_name first starts
  have code := Token.codeAt_name source name first rest chars codes
  have begins : bodyStart source = 0 := by
    unfold bodyStart
    simp only [code, beq_false_of_ne (differs 0xFEFF (by decide)), Bool.false_eq_true, if_false,
      beq_false_of_ne (differs 35 (by decide)), Bool.false_and]
  let named := openState.atToken (.word name false) 0 source.size 0
  let ended := named.atToken .eof source.size source.size source.size
  have moved : advance (outside source) openState = .ok ((), named) :=
    advance_of source openState 0 source.size _ (Token.skipBlanks_name source name first rest chars starts codes)
      (Token.scan_name source name first rest chars starts rests codes)
  have moves : advance (outside source) named = .ok ((), ended) :=
    advance_of source named source.size source.size _ (Token.scan_end source).1 (Token.scan_end source).2
  have read : @statements (within nesting) false true (outside source) named =
      .ok (([.expression (.name name)], true), ended.noted name) :=
    statements_name source named ended name rfl (isReserved_of_name source name isName) plain moves rfl 1495 rfl rfl
  have whole : wholeScript (outside source) openState = .ok (([.expression (.name name)], true), ended.noted name) := by
    unfold wholeScript
    rw [bind_read (outside source) openState named _ _ _ moved]
    exact read
  have noted : ended.noted name = { ended with mentions := [name] } := rfl
  rw [noted] at whole
  have closed : inBlock wholeScript (outside source) { startState with stop := 0 } =
      .ok ((([.expression (.name name)], true), { names := [], functions := [] }),
        { ended with mentions := [name], blocks := [] }) := by
    unfold inBlock
    refine (bind_read (outside source) { startState with stop := 0 } openState (modify _) _ () rfl).trans ?_
    rw [bind_read (outside source) _ _ _ _ _ whole]
    rfl
  unfold Program.parse
  rw [begins]
  change (inBlock wholeScript (outside source) { startState with stop := 0 }).bind _ = _
  rw [closed]
  rfl

/-- The reader looks for a function behind one word that is no keyword, finds none, and takes the word as a name. -/
theorem parse_async (source : Token.Source) (codes : source.toList = "async".toList.map Char.toNat) :
    Program.parse (.outside true) source = .ok (nameProgram "async") := by
  have same : source = #[97, 115, 121, 110, 99] := Array.toList_inj.1 codes
  rw [same]
  rfl

theorem parse_name (source : Token.Source) (name : String) (isName : IsName name)
    (codes : source.toList = name.toList.map Char.toNat) :
    Program.parse (.outside true) source = .ok (nameProgram name) := by
  by_cases async : name = "async"
  · subst async
    exact parse_async source codes
  · exact parse_plain source name isName async codes

end Grammar

end ScriptSandbox.Script
