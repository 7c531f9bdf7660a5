import SparqlScalar.Term.Operand

/-!
# Truth values and their connectives

The effective boolean value of a term, and the connectives over operands that may fail. The
operands of a connective are actions: running one gives a term or an error. A disjunction runs
them up to the first that is true; a conjunction and a choice of the first value run all of them.
Errors are held back, and the first of them is the result where no operand decides.
-/

namespace SparqlScalar

/-- Whether an ill-formed literal of the datatype counts as false. -/
def Datatype.countsAsFalse (d : Datatype) : Bool := d = .boolean || d.isNumeric

/-- The truth value a term stands for. Ill-formed truth values and numbers are false. -/
def effectiveBooleanValue (t : Term) : EvalResult Bool :=
  match t.value with
  | .boolean value => .ok value
  | .numeric value => .ok (!value.isNaN && !value.isZero)
  | .simple text => .ok !text.isEmpty
  | .tagged text _ => .ok !text.isEmpty
  | .other literal =>
    if literal.datatype?.any Datatype.countsAsFalse then .ok false
    else typeError (.noTruthValue t)
  | _ => typeError (.noTruthValue t)

/-- A truth value that is written as a term is read again. -/
theorem effectiveBooleanValue_ofBool (b : Bool) :
    effectiveBooleanValue (Term.ofBool b) = .ok b := by
  cases b <;> rfl

/-- The negated truth value as a term. -/
def negation (t : Term) : EvalResult Term := do
  let value ← effectiveBooleanValue t
  return Term.ofBool !value

/-- The result where no operand decides: the first error, or else a default. -/
def unlessError {α : Type} (firstError : Option EvalError) (default : α) : EvalResult α :=
  match firstError with
  | some e => .error e
  | none => .ok default

variable {m : Type → Type} [Monad m]

/-- Runs operands up to the first that passes a test, keeping the first error before it. -/
def anyFrom (test : Term → EvalResult Bool) (firstError : Option EvalError) :
    List (m (EvalResult Term)) → m (EvalResult Bool)
  | [] => pure (unlessError firstError false)
  | operand :: rest => do
    match (← operand) >>= test with
    | .ok true => pure (.ok true)
    | .ok false => anyFrom test firstError rest
    | .error e => anyFrom test (firstError <|> some e) rest

/-- Whether some operand passes a test. -/
def anyOf (test : Term → EvalResult Bool) (operands : List (m (EvalResult Term))) :
    m (EvalResult Bool) :=
  anyFrom test none operands

/-- Runs all operands, keeping whether all passed a test so far and the first error. -/
def allFrom (test : Term → EvalResult Bool) (holds : Bool) (firstError : Option EvalError) :
    List (m (EvalResult Term)) → m (EvalResult Bool)
  | [] => pure (if holds then unlessError firstError true else .ok false)
  | operand :: rest => do
    match (← operand) >>= test with
    | .ok true => allFrom test holds firstError rest
    | .ok false => allFrom test false firstError rest
    | .error e => allFrom test holds (firstError <|> some e) rest

/-- Whether all operands pass a test. -/
def allOf (test : Term → EvalResult Bool) (operands : List (m (EvalResult Term))) :
    m (EvalResult Bool) :=
  allFrom test true none operands

/-- The disjunction of the truth values of the operands. -/
def disjunction (operands : List (m (EvalResult Term))) : m (EvalResult Bool) :=
  anyOf effectiveBooleanValue operands

/-- The conjunction of the truth values of the operands. -/
def conjunction (operands : List (m (EvalResult Term))) : m (EvalResult Bool) :=
  allOf effectiveBooleanValue operands

/-- Runs all operands and keeps the first value. -/
def firstValueFrom (found : Option Term) : List (m (EvalResult Term)) → m (EvalResult Term)
  | [] => pure (EvalResult.ofOption .nothingToCoalesce found)
  | operand :: rest => do
    match ← operand with
    | .ok t => firstValueFrom (found <|> some t) rest
    | .error _ => firstValueFrom found rest

/-- The value of the first operand that has one. -/
def firstValue (operands : List (m (EvalResult Term))) : m (EvalResult Term) :=
  firstValueFrom none operands

end SparqlScalar
