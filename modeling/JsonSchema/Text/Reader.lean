import JsonSchema.Event
import JsonSchema.Text.Scalar
/-!
# Reading JSON text

`Text.read` turns bytes into the events of one value. Reading advances a small machine: the open
aggregates and what must come next. Events stand as soon as they are read, so a fault leaves those
before it in place. Each step consumes at least one byte (`step_length`), which is why reading ends.
-/

namespace JsonSchema.Text

/-- An open aggregate. -/
inductive Frame where
  | array
  | object
deriving DecidableEq

/-- What must come next. -/
inductive Mode where
  /-- A value. -/
  | value
  /-- The first element of an array, or its end. -/
  | firstElement
  /-- A comma and an element, or the end of the array. -/
  | nextElement
  /-- The first member of an object, or its end. -/
  | firstMember
  /-- A comma and a member, or the end of the object. -/
  | nextMember
  /-- The colon after a name. -/
  | colon
  /-- Nothing but space. -/
  | nothing
deriving DecidableEq

/-- The machine between two steps. -/
structure State where
  mode : Mode
  frames : List Frame
deriving DecidableEq

/-- At most this many aggregates may be open. -/
def depthLimit : Nat := 127

/-- What follows a complete value inside `frames`: the event that closes its entry, and the
state. -/
def State.afterValue (frames : List Frame) : List Event × State :=
  match frames with
  | [] => ([], ⟨.nothing, frames⟩)
  | .array :: _ => ([.element], ⟨.nextElement, frames⟩)
  | .object :: _ => ([.member], ⟨.nextMember, frames⟩)

/-- The result of a step: the events read, the next state and the bytes that remain. -/
abbrev Step := List Event × State × Bytes

/-- A scalar, which is complete at once. -/
def scalarStep (frames : List Frame) (e : Event) (rest : Bytes) : Step :=
  let (es, s) := State.afterValue frames
  (e :: es, s, rest)

/-- The end of the innermost aggregate. -/
def closeStep (frames : List Frame) (e : Event) (rest : Bytes) : Step :=
  scalarStep frames.tail e rest

/-- The beginning of an aggregate. -/
def openStep (frames : List Frame) (f : Frame) (mode : Mode) (e : Event) (rest : Bytes) :
    Except Fault Step :=
  if depthLimit ≤ frames.length then .error (.before .tooDeep rest)
  else .ok ([e], ⟨mode, f :: frames⟩, rest)

/-- The beginning of a value, whose first byte is `b`. -/
def valueStep (frames : List Frame) (b : UInt8) (rest : Bytes) : Except Fault Step :=
  if b = 0x6E then do return scalarStep frames .null (← literal [0x75, 0x6C, 0x6C] rest)
  else if b = 0x74 then do
    return scalarStep frames (.boolean true) (← literal [0x72, 0x75, 0x65] rest)
  else if b = 0x66 then do
    return scalarStep frames (.boolean false) (← literal [0x61, 0x6C, 0x73, 0x65] rest)
  else if b = 0x2D then do
    let (n, rest) ← number true rest
    return scalarStep frames (.number n) rest
  else if (digit? b).isSome then do
    let (n, rest) ← number false (b :: rest)
    return scalarStep frames (.number n) rest
  else if b = 0x22 then do
    let (s, rest) ← string [] rest
    return scalarStep frames (.string s) rest
  else if b = 0x5B then openStep frames .array .firstElement .beginArray rest
  else if b = 0x7B then openStep frames .object .firstMember .beginObject rest
  else .error (.atHead .expectedValue (b :: rest))

/-- A name, after its opening quote. -/
def nameStep (frames : List Frame) (rest : Bytes) : Except Fault Step := do
  let (name, rest) ← string [] rest
  return ([.key name], ⟨.colon, frames⟩, rest)

/-- One step on bytes that do not start with space; the machine expects more than that. -/
def State.step (s : State) (bs : Bytes) : Except Fault Step :=
  match s.mode, bs with
  | .value, [] => .error (.atEnd .endOfValue)
  | .value, b :: rest => valueStep s.frames b rest
  | .firstElement, [] => .error (.atEnd .endOfList)
  | .firstElement, b :: rest =>
    if b = 0x5D then .ok (closeStep s.frames .endArray rest) else valueStep s.frames b rest
  | .nextElement, [] => .error (.atEnd .endOfList)
  | .nextElement, b :: rest =>
    if b = 0x5D then .ok (closeStep s.frames .endArray rest)
    else if b = 0x2C then
      match skipSpace rest with
      | [] => .error (.atEnd .endOfValue)
      | c :: rest =>
        if c = 0x5D then .error (.atHead .trailingComma (c :: rest))
        else valueStep s.frames c rest
    else .error (.atHead .expectedCommaOrBracket bs)
  | .firstMember, [] => .error (.atEnd .endOfObject)
  | .firstMember, b :: rest =>
    if b = 0x7D then .ok (closeStep s.frames .endObject rest)
    else if b = 0x22 then nameStep s.frames rest
    else .error (.atHead .keyNotString bs)
  | .nextMember, [] => .error (.atEnd .endOfObject)
  | .nextMember, b :: rest =>
    if b = 0x7D then .ok (closeStep s.frames .endObject rest)
    else if b = 0x2C then
      match skipSpace rest with
      | [] => .error (.atEnd .endOfValue)
      | c :: rest =>
        if c = 0x22 then nameStep s.frames rest
        else if c = 0x7D then .error (.atHead .trailingComma (c :: rest))
        else .error (.atHead .keyNotString (c :: rest))
    else .error (.atHead .expectedCommaOrBrace bs)
  | .colon, [] => .error (.atEnd .endOfObject)
  | .colon, b :: rest =>
    if b = 0x3A then .ok ([], ⟨.value, s.frames⟩, rest) else .error (.atHead .expectedColon bs)
  | .nothing, _ => .error (.atHead .trailingCharacters bs)

/-! ### Every step consumes a byte -/

theorem literal_length {ws bs rest : Bytes} (h : literal ws bs = .ok rest) :
    rest.length ≤ bs.length := by
  induction ws generalizing bs with
  | nil => simp [literal] at h; simp [h]
  | cons w ws ih =>
    cases bs with
    | nil => simp [literal] at h
    | cons b bs =>
      simp only [literal] at h
      split at h
      · have := ih h; simp; omega
      · cases h

theorem significand_length (n k : Nat) (bs : Bytes) :
    (significand n k bs).2.2.length ≤ bs.length := by
  induction bs generalizing n k with
  | nil => simp [significand]
  | cons b bs ih =>
    simp only [significand]
    split
    · simp
    · split
      · exact Nat.le_succ_of_le (ih _ _)
      · simp

theorem surplus_length (k : Nat) (bs : Bytes) : (surplus k bs).2.length ≤ bs.length := by
  induction bs generalizing k with
  | nil => simp [surplus]
  | cons b bs ih =>
    simp only [surplus]
    split
    · exact Nat.le_succ_of_le (ih _)
    · simp

theorem exponentDigits_length (n : Nat) (bs : Bytes) :
    (exponentDigits n bs).2.length ≤ bs.length := by
  induction bs generalizing n with
  | nil => simp [exponentDigits]
  | cons b bs ih =>
    simp only [exponentDigits]
    split
    · simp
    · split
      · exact Nat.le_succ_of_le (ih _)
      · simp

theorem finishFloat_rest {neg : Bool} {n : Nat} {e : Int} {bs rest : Bytes} {x : Number}
    (h : finishFloat neg n e bs = .ok (x, rest)) : rest = bs := by
  simp only [finishFloat] at h
  split at h <;> simp_all

theorem exponentSign_length (bs : Bytes) : (exponentSign bs).2.length ≤ bs.length := by
  cases bs with
  | nil => simp [exponentSign]
  | cons b bs =>
    simp only [exponentSign]
    split
    · simp
    · split <;> simp

theorem unsignedExponent_length {neg down : Bool} {n : Nat} {e : Int} {bs rest : Bytes} {x : Number}
    (h : unsignedExponent neg n e down bs = .ok (x, rest)) : rest.length ≤ bs.length := by
  cases bs with
  | nil => cases h
  | cons b bs =>
    refine Nat.le_succ_of_le ?_
    simp only [unsignedExponent] at h
    split at h
    · cases h
    · rename_i d _
      have hd := exponentDigits_length d bs
      split at h
      · rename_i heq
        rw [heq] at hd
        rw [finishFloat_rest h]
        exact hd
      · rename_i r heq
        rw [heq] at hd
        split at h
        · cases h
        · simp only [Except.ok.injEq, Prod.mk.injEq] at h
          rw [← h.2]
          exact Nat.le_trans (surplus_length 0 r) hd

theorem exponent_length {neg : Bool} {n : Nat} {e : Int} {bs rest : Bytes} {x : Number}
    (h : exponent neg n e bs = .ok (x, rest)) : rest.length ≤ bs.length :=
  Nat.le_trans (unsignedExponent_length h) (exponentSign_length bs)

theorem tail_length {neg : Bool} {n : Nat} {e : Int} {bs rest : Bytes} {x : Number}
    (h : tail neg n e bs = .ok (x, rest)) : rest.length ≤ bs.length := by
  simp only [tail] at h
  split at h
  · split at h
    · exact Nat.le_succ_of_le (exponent_length h)
    · exact Nat.le_of_eq (congrArg _ (finishFloat_rest h))
  · exact Nat.le_of_eq (congrArg _ (finishFloat_rest h))

theorem fraction_length {neg : Bool} {n : Nat} {e : Int} {bs rest : Bytes} {x : Number}
    (h : fraction neg n e bs = .ok (x, rest)) : rest.length ≤ bs.length := by
  simp only [fraction] at h
  split at h
  · split at h <;> cases h
  · exact Nat.le_trans (tail_length h)
      (Nat.le_trans (surplus_length _ _) (significand_length _ _ _))

theorem afterInteger_length {neg : Bool} {n extra : Nat} {bs rest : Bytes} {x : Number}
    (h : afterInteger neg n extra bs = .ok (x, rest)) : rest.length ≤ bs.length := by
  simp only [afterInteger] at h
  split at h
  · split at h
    · exact Nat.le_succ_of_le (fraction_length h)
    · split at h
      · exact Nat.le_succ_of_le (exponent_length h)
      · split at h
        · cases h; simp
        · exact Nat.le_of_eq (congrArg _ (finishFloat_rest h))
  · split at h
    · cases h; simp
    · exact Nat.le_of_eq (congrArg _ (finishFloat_rest h))

theorem number_length {neg : Bool} {bs rest : Bytes} {x : Number}
    (h : number neg bs = .ok (x, rest)) : rest.length < bs.length := by
  cases bs with
  | nil => cases h
  | cons b bs =>
    refine Nat.lt_succ_of_le ?_
    simp only [number] at h
    split at h
    · cases h
    · split at h
      · split at h
        · cases h
        · exact afterInteger_length h
      · exact afterInteger_length h
    · exact Nat.le_trans (afterInteger_length h)
        (Nat.le_trans (surplus_length _ _) (significand_length _ _ _))

theorem finishString_rest {acc bs rest : Bytes} {s : String}
    (h : finishString acc bs = .ok (s, rest)) : rest = bs := by
  simp only [finishString] at h
  split at h <;> simp_all

theorem string_length {acc bs rest : Bytes} {s : String} (h : string acc bs = .ok (s, rest)) :
    rest.length ≤ bs.length := by
  fun_induction string acc bs with
  | case1 => cases h
  | case2 => rw [finishString_rest h]; simp
  | _ => first | (rename_i ih; have := ih h; simp only [List.length_cons] at *; omega) | cases h

theorem scalarStep_rest (fs : List Frame) (e : Event) (rest : Bytes) :
    (scalarStep fs e rest).2.2 = rest := by
  simp only [scalarStep]

theorem valueStep_length {fs : List Frame} {b : UInt8} {bs : Bytes} {st : Step}
    (h : valueStep fs b bs = .ok st) : st.2.2.length ≤ bs.length := by
  have opened : ∀ {f m e}, openStep fs f m e bs = .ok st → st.2.2.length ≤ bs.length := by
    intro f m e h
    simp only [openStep] at h
    split at h
    · cases h
    · cases h; simp
  have lit : ∀ {ws e}, (do return scalarStep fs e (← literal ws bs) : Except Fault Step) = .ok st →
      st.2.2.length ≤ bs.length := by
    intro ws e h
    cases hl : literal ws bs with
    | error f => rw [hl] at h; cases h
    | ok r => rw [hl] at h; cases h; rw [scalarStep_rest]; exact literal_length hl
  simp only [valueStep] at h
  split at h
  · exact lit h
  split at h
  · exact lit h
  split at h
  · exact lit h
  split at h
  · cases hn : number true bs with
    | error f => rw [hn] at h; cases h
    | ok r => rw [hn] at h; cases h; rw [scalarStep_rest]; exact Nat.le_of_lt (number_length hn)
  split at h
  · cases hn : number false (b :: bs) with
    | error f => rw [hn] at h; cases h
    | ok r =>
      rw [hn] at h; cases h; rw [scalarStep_rest]; exact Nat.le_of_lt_succ (number_length hn)
  split at h
  · cases hs : string [] bs with
    | error f => rw [hs] at h; cases h
    | ok r => rw [hs] at h; cases h; rw [scalarStep_rest]; exact string_length hs
  split at h
  · exact opened h
  split at h
  · exact opened h
  · cases h

theorem nameStep_length {fs : List Frame} {bs : Bytes} {st : Step}
    (h : nameStep fs bs = .ok st) : st.2.2.length ≤ bs.length := by
  simp only [nameStep] at h
  cases hs : string [] bs with
  | error f => rw [hs] at h; cases h
  | ok r => rw [hs] at h; cases h; exact string_length hs

theorem skipSpace_cons {bs rest : Bytes} {c : UInt8} (h : skipSpace bs = c :: rest) :
    rest.length ≤ bs.length := by
  have := skipSpace_length bs
  rw [h] at this
  simp only [List.length_cons] at this
  omega

theorem State.step_length {s : State} {bs : Bytes} {st : Step} (h : s.step bs = .ok st) :
    st.2.2.length < bs.length := by
  simp only [State.step, closeStep] at h
  split at h
  all_goals try cases h
  all_goals refine Nat.lt_succ_of_le ?_
  · exact valueStep_length h
  · split at h
    · cases h; exact Nat.le_of_eq (congrArg List.length (scalarStep_rest _ _ _))
    · exact valueStep_length h
  · split at h
    · cases h; exact Nat.le_of_eq (congrArg List.length (scalarStep_rest _ _ _))
    · split at h
      · split at h
        · cases h
        · rename_i heq
          split at h
          · cases h
          · exact Nat.le_trans (valueStep_length h) (skipSpace_cons heq)
      · cases h
  · split at h
    · cases h; exact Nat.le_of_eq (congrArg List.length (scalarStep_rest _ _ _))
    · split at h
      · exact nameStep_length h
      · cases h
  · split at h
    · cases h; exact Nat.le_of_eq (congrArg List.length (scalarStep_rest _ _ _))
    · split at h
      · split at h
        · cases h
        · rename_i heq
          split at h
          · exact Nat.le_trans (nameStep_length h) (skipSpace_cons heq)
          · split at h <;> cases h
      · cases h
  · split at h
    · cases h; exact Nat.le_refl _
    · cases h

/-! ### Whole texts -/

/-- What a text yields: the events read, and the fault that ended the reading, if any. -/
structure Reading where
  events : List Event
  fault : Option Fault

/-- Reads on from a state; `acc` holds the events so far, latest first. -/
def State.run (s : State) (acc : List Event) (bs : Bytes) : Reading :=
  if s.mode = .nothing ∧ skipSpace bs = [] then ⟨acc.reverse, none⟩
  else match _h : s.step (skipSpace bs) with
    | .error f => ⟨acc.reverse, some f⟩
    | .ok (es, s, rest) => s.run (es.reverse ++ acc) rest
termination_by bs.length
decreasing_by exact Nat.lt_of_lt_of_le (State.step_length ‹_›) (skipSpace_length bs)

/-- The events of one value with nothing but space around it. -/
def read (bs : Bytes) : Reading := State.run ⟨.value, []⟩ [] bs

end JsonSchema.Text
