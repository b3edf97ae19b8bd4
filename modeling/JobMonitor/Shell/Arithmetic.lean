import JobMonitor.Number.Decimal

set_option autoImplicit false

/-! # Calculating

Numbers of 64 bits and expressions over them. What is not evaluated, such as the right side of
`0 && x`, is read all the same, but does nothing. -/

namespace JobMonitor.Shell

/-! ## Numbers -/

/-- An integer as far as it fits into 64 bits. -/
def wrap (n : Int) : Int := (Int64.ofInt n).toInt

/-- White space around a number. -/
def isSpaceChar (c : Char) : Bool := c = ' ' || (9 ≤ c.toNat && c.toNat ≤ 13)

/-- The digits of a base at the front of a text, as a number, and what is behind them. -/
def digitsOf (base : Nat) (text : List Char) : Nat × List Char :=
  let value (c : Char) : Nat :=
    if isDigitChar c then digitValue c else if c.isAlpha then c.toLower.toNat - 87 else base
  let digits := text.takeWhile (value · < base)
  (digits.foldl (fun n c => base * n + value c) 0, text.drop digits.length)

/-- The number at the front of a text, the base of which is told by how it starts. -/
def leadingNumber? (text : List Char) : Option (Nat × List Char) :=
  match text with
  | '0' :: x :: d :: rest =>
    if (x = 'x' ∨ x = 'X') ∧ (digitsOf 16 [d]).2.isEmpty then some (digitsOf 16 (d :: rest))
    else some (digitsOf 8 text)
  | '0' :: _ => some (digitsOf 8 text)
  | c :: _ => if isDigitChar c then some (digitsOf 10 text) else none
  | [] => none

/-- The number that a text consists of, with blanks around it and a sign. -/
def signedNumber? (digits? : List Char → Option (Nat × List Char)) (text : String) : Option Int := do
  let text := text.toList.dropWhile isSpaceChar
  let (isNegative, text) := match text with
    | '-' :: rest => (true, rest)
    | '+' :: rest => (false, rest)
    | _ => (false, text)
  let (n, rest) ← digits? text
  let n : Int := if isNegative then -n else n
  if rest.all isSpaceChar ∧ wrap n = n then some n else none

/-- The number in base ten that a text consists of. -/
def wholeNumber? (text : String) : Option Int :=
  signedNumber? (fun digits =>
    if digits.head?.any isDigitChar then some (digitsOf 10 digits) else none) text

/-- The number that the value of a variable is. Nothing is 0. -/
def valueNumber? (text : String) : Option Int :=
  if text.toList.all isSpaceChar then some 0 else signedNumber? leadingNumber? text

/-! ## Expressions -/

/-- A calculation: what is left of the expression, and the variables before it and those that it
    has assigned. -/
structure Calculation where
  rest : List Char
  value? : String → Option String
  assigned : List (String × Int) := []

/-- A step of a calculation. There is nothing to say about one that fails. -/
abbrev Calculating := StateT Calculation Option

/-- An operator between two numbers. The lower its level the more tightly it binds. -/
structure Operator where
  level : Nat
  apply : Int → Int → Option Int

/-- A truth value as a number. -/
def truth (b : Bool) : Int := if b then 1 else 0

/-- The operators between two numbers. -/
def operators : List (String × Operator) := [
  ("<<", ⟨3, fun a b => some (wrap (a * Int.pow 2 (b % 64).toNat))⟩),
  (">>", ⟨3, fun a b => some (a.fdiv (Int.pow 2 (b % 64).toNat))⟩),
  ("<=", ⟨4, fun a b => some (truth (a ≤ b))⟩), (">=", ⟨4, fun a b => some (truth (a ≥ b))⟩),
  ("==", ⟨5, fun a b => some (truth (a = b))⟩), ("!=", ⟨5, fun a b => some (truth (a ≠ b))⟩),
  ("*", ⟨1, fun a b => some (wrap (a * b))⟩),
  ("/", ⟨1, fun a b => if b = 0 then none else some (wrap (a.tdiv b))⟩),
  ("%", ⟨1, fun a b => if b = 0 then none else some (a.tmod b)⟩),
  ("+", ⟨2, fun a b => some (wrap (a + b))⟩), ("-", ⟨2, fun a b => some (wrap (a - b))⟩),
  ("<", ⟨4, fun a b => some (truth (a < b))⟩), (">", ⟨4, fun a b => some (truth (a > b))⟩),
  ("&", ⟨6, fun a b => some (Int64.ofInt a &&& Int64.ofInt b).toInt⟩),
  ("^", ⟨7, fun a b => some (Int64.ofInt a ^^^ Int64.ofInt b).toInt⟩),
  ("|", ⟨8, fun a b => some (Int64.ofInt a ||| Int64.ofInt b).toInt⟩)]

/-- The level of the operator that binds least tightly. -/
def loosest : Nat := 8

/-- The operators that can also assign what they give. -/
def assigningOperators : List String := ["<<", ">>", "*", "/", "%", "+", "-", "&", "^", "|"]

/-- The text comes next, behind blanks. -/
def comesNext (sign : String) : Calculating Bool :=
  modifyGet fun c =>
    let rest := c.rest.dropWhile isSpaceChar
    (sign.toList.isPrefixOf rest, { c with rest })

/-- Takes so many characters. -/
def passOver (count : Nat) : Calculating Unit := modify fun c => { c with rest := c.rest.drop count }

/-- Takes a text if it comes next. -/
def takeSymbol (sign : String) : Calculating Bool := do
  if ← comesNext sign then
    passOver sign.length
    return true
  else return false

/-- The operator that comes next, unless it assigns. -/
def nextOperator? : Calculating (Option (String × Operator)) := do
  for logical in ["&&", "||"] do
    if ← comesNext logical then return none
  for sign in assigningOperators do
    if ← comesNext (sign ++ "=") then return none
  operators.findSomeM? fun (sign, operator) => do
    return if ← comesNext sign then some (sign, operator) else none

/-- The operator that is applied when something is assigned, if an assignment comes next. -/
def takeAssignment? : Calculating (Option (Option Operator)) := do
  for sign in assigningOperators do
    if ← takeSymbol (sign ++ "=") then return some (operators.lookup sign)
  if ← comesNext "==" then return none
  else if ← takeSymbol "=" then return some none
  else return none

/-- The value of a variable. -/
def valueOf (name : String) : Calculating Int := do
  let c ← get
  match c.assigned.lookup name with
  | some n => return n
  | none => StateT.lift (valueNumber? ((c.value? name).getD ""))

/-- The name that comes next. -/
def takeName? : Calculating (Option String) := do
  let _ ← comesNext ""
  let c ← get
  match c.rest.head? with
  | none => return none
  | some first =>
    if first.isAlpha ∨ first = '_' then
      let name := c.rest.takeWhile fun c => c.isAlphanum || c = '_'
      passOver name.length
      return some (String.ofList name)
    else return none

/-- The number that comes next, or the largest one if it is too large. -/
def takeNumber? : Calculating (Option Int) := do
  match leadingNumber? (← get).rest with
  | some (n, rest) =>
    modify fun c => { c with rest }
    return some (min n Int64.maxValue.toInt)
  | none => return none

mutual

/-- An operand: a number, a variable, a sign before an operand or an expression in parentheses. -/
def operand (isLive : Bool) : (fuel : Nat) → Calculating Int
  | 0 => StateT.lift none
  | fuel + 1 => do
    if ← takeSymbol "(" then
      let n ← expression isLive fuel
      if ← takeSymbol ")" then return n else StateT.lift none
    else if ← takeSymbol "+" then operand isLive fuel
    else if ← takeSymbol "-" then return wrap (-(← operand isLive fuel))
    else if ← takeSymbol "!" then return truth ((← operand isLive fuel) = 0)
    else if ← takeSymbol "~" then return -(← operand isLive fuel) - 1
    else
      match ← takeName? with
      | some name => valueOf name
      | none =>
        match ← takeNumber? with
        | some n => return n
        | none => StateT.lift none

/-- Goes on with operators up to a level behind their left side. -/
def climb (isLive : Bool) (left : Int) (level : Nat) : (fuel : Nat) → Calculating Int
  | 0 => StateT.lift none
  | fuel + 1 => do
    match ← nextOperator? with
    | none => return left
    | some (sign, operator) =>
      if operator.level > level then return left
      else
        passOver sign.length
        let right ← climb isLive (← operand isLive fuel) (operator.level - 1) fuel
        if isLive then climb isLive (← StateT.lift (operator.apply left right)) level fuel
        else climb isLive right level fuel

/-- Operands with `&&` between them, behind the first one. -/
def conjunction (isLive : Bool) (left : Int) : (fuel : Nat) → Calculating Int
  | 0 => StateT.lift none
  | fuel + 1 => do
    if ← takeSymbol "&&" then
      let isLive' := isLive && left ≠ 0
      let right ← climb isLive' (← operand isLive' fuel) loosest fuel
      conjunction isLive (truth (left ≠ 0 && right ≠ 0)) fuel
    else return left

/-- Operands with `||` between them, behind the first one. -/
def disjunction (isLive : Bool) (left : Int) : (fuel : Nat) → Calculating Int
  | 0 => StateT.lift none
  | fuel + 1 => do
    if ← takeSymbol "||" then
      let isLive' := isLive && left = 0
      let right ← climb isLive' (← operand isLive' fuel) loosest fuel
      let right ← conjunction isLive' right fuel
      disjunction isLive (truth (left ≠ 0 || right ≠ 0)) fuel
    else return left

/-- A choice between two expressions, or an expression that makes none. -/
def choice (isLive : Bool) : (fuel : Nat) → Calculating Int
  | 0 => StateT.lift none
  | fuel + 1 => do
    let first ← climb isLive (← operand isLive fuel) loosest fuel
    let condition ← disjunction isLive (← conjunction isLive first fuel) fuel
    if ← takeSymbol "?" then
      let yes ← expression (isLive && condition ≠ 0) fuel
      if ← takeSymbol ":" then
        let no ← choice (isLive && condition = 0) fuel
        return if condition ≠ 0 then yes else no
      else StateT.lift none
    else return condition

/-- An expression, which may assign to a variable. -/
def expression (isLive : Bool) : (fuel : Nat) → Calculating Int
  | 0 => StateT.lift none
  | fuel + 1 => do
    let before ← get
    match ← takeName? with
    | none => choice isLive fuel
    | some name =>
      match ← takeAssignment? with
      | none =>
        set before
        choice isLive fuel
      | some operator =>
        let right ← expression isLive fuel
        if isLive then
          let n ← match operator with
            | none => pure right
            | some o => do StateT.lift (o.apply (← valueOf name) right)
          modify fun c => { c with assigned := (name, n) :: c.assigned }
          return n
        else return right

end

/-- The value of an expression and what it has assigned. -/
def calculate (value? : String → Option String) (text : String) :
    Option (Int × List (String × Int)) := do
  let (n, c) ← (expression true (16 * text.length + 16)).run { rest := text.toList, value? }
  if c.rest.all isSpaceChar then some (n, c.assigned) else none

end JobMonitor.Shell
