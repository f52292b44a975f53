namespace RenderTemplate

namespace Braces

/-- Where a scan stands between two characters of a group. Braces inside string literals do not
count, nor do those inside template literals, where only the number of open substitutions is
tracked. -/
inductive Mode where
  /-- In plain code. -/
  | code
  /-- In a string literal, up to its quote. -/
  | string (quote : Char)
  /-- In a template literal with this many open substitutions. Right after a dollar sign a brace
  opens one more. -/
  | template (substitutions : Nat) (dollar : Bool)
deriving DecidableEq, Repr

/-- The same place, but not right after a dollar sign. -/
def Mode.settled : Mode → Mode
  | template substitutions _ => .template substitutions false
  | mode => mode

/-- A scan for the end of a group. A backslash hides the character after it everywhere. -/
structure Scan where
  mode : Mode := .code
  depth : Nat := 0
  escaped : Bool := false
deriving DecidableEq, Repr

/-- What a scan does with a character. -/
inductive Move where
  | on (scan : Scan)
  /-- It has found the end of the group. -/
  | close
  /-- It gives up at a brace that closes nothing. -/
  | stop
deriving DecidableEq, Repr

namespace Scan

/-- What a scan does with the next character. -/
def step (scan : Scan) (c : Char) : Move :=
  if scan.escaped then .on ⟨scan.mode.settled, scan.depth, false⟩
  else if c = '\\' then .on ⟨scan.mode.settled, scan.depth, true⟩
  else
    match scan.mode with
    | .string quote => .on ⟨if c = quote then .code else .string quote, scan.depth, false⟩
    | .template substitutions dollar =>
      if c = '`' ∧ substitutions = 0 then .on ⟨.code, scan.depth, false⟩
      else if c = '{' ∧ dollar then .on ⟨.template (substitutions + 1) false, scan.depth, false⟩
      else if c = '}' then .on ⟨.template (substitutions - 1) false, scan.depth, false⟩
      else .on ⟨.template substitutions (c == '$'), scan.depth, false⟩
    | .code =>
      if c = '"' ∨ c = '\'' then .on ⟨.string c, scan.depth, false⟩
      else if c = '`' then .on ⟨.template 0 false, scan.depth, false⟩
      else if c = '{' then .on ⟨.code, scan.depth + 1, false⟩
      else if c = '}' then
        match scan.depth with
        | 0 => .stop
        | 1 => .close
        | depth + 2 => .on ⟨.code, depth + 1, false⟩
      else .on ⟨.code, scan.depth, false⟩

/-- The number of characters up to and including the brace that brings the depth back to zero, if
there is one. -/
def close? (scan : Scan) : List Char → Option Nat
  | [] => none
  | c :: rest =>
    match scan.step c with
    | .on next => (next.close? rest).map (· + 1)
    | .close => some 1
    | .stop => none

variable {scan : Scan} {count : Nat} {chars : List Char}

/-- A group ends with the next character, or one character later than the scan behind that character
says. -/
theorem close?_cons_eq_some_iff {c : Char} :
    scan.close? (c :: chars) = some count ↔
      scan.step c = .close ∧ count = 1 ∨
        ∃ next inner, scan.step c = .on next ∧ next.close? chars = some inner ∧
          count = inner + 1 := by
  rw [close?]
  cases scan.step c with
  | on next =>
    rw [Option.map_eq_some_iff]
    constructor
    · rintro ⟨inner, closed, rfl⟩
      exact .inr ⟨next, inner, rfl, closed, rfl⟩
    · rintro (⟨⟨⟩, _⟩ | ⟨_, inner, ⟨rfl⟩, closed, rfl⟩)
      exact ⟨inner, closed, rfl⟩
  | close => simp [eq_comm]
  | stop => simp

theorem close?_pos (closed : scan.close? chars = some count) : 0 < count := by
  cases chars with
  | nil => cases closed
  | cons c rest =>
    rcases close?_cons_eq_some_iff.mp closed with ⟨_, rfl⟩ | ⟨_, inner, _, _, rfl⟩
    · exact Nat.one_pos
    · exact Nat.succ_pos inner

end Scan

/-- The number of characters of the group that a text starts with. -/
def length? (chars : List Char) : Option Nat :=
  ({} : Scan).close? chars

end Braces

end RenderTemplate
