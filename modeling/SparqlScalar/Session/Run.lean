import SparqlScalar.Evaluation.Evaluate
import SparqlScalar.Expression.Simplify
import SparqlScalar.Session.Command

/-!
# Sessions

A session has one registry and one evaluator over it, and names for functions, caches and contexts.
Commands are run one after the other; each gives an answer and leaves the session for the next.
-/

namespace SparqlScalar

/-- A session between two commands. -/
structure Session where
  registry : Registry
  config : Config
  entropy : Nat → Nat
  functions : List (String × CustomFunction)
  caches : List (String × Nat)
  contexts : List (String × Context)
  /-- How many functions were made. -/
  functionCount : Nat
  /-- How many caches were made. -/
  cacheCount : Nat
  /-- How many counters of rows were made. -/
  counterCount : Nat
  /-- What evaluations left behind; its log is that of the whole session. -/
  state : State

namespace Session

/-- A session in which nothing was done. -/
def start (registry : Registry) (config : Config) (entropy : Nat → Nat) : Session :=
  ⟨registry, config, entropy, [], [], [], 0, 0, 0, .initial⟩

/-- A list of named things with another one under a name. -/
def put {α : Type} (name : String) (value : α) (table : List (String × α)) : List (String × α) :=
  (name, value) :: withoutKey name table

/-- How many rows of a counter were passed by some events. -/
def rowsPassed (counter : Nat) : List Event → Nat
  | [] => 0
  | .pulled other _ passed :: log =>
    if other = counter then rowsPassed counter log + passed else rowsPassed counter log
  | _ :: log => rowsPassed counter log

/-- The function with a body and a number of its own. -/
def FunctionBody.toFunction (id : FunctionId) : FunctionBody → CustomFunction
  | .byValue arity apply => .byValue id arity apply
  | .raw script => .raw id script

/-- A session with one function more. -/
def addFunction (s : Session) (name : String) (body : FunctionBody) : Session :=
  { s with
    functions := put name (body.toFunction (.custom name s.functionCount)) s.functions
    functionCount := s.functionCount + 1 }

/-- A session with another registry, or the refusal to change it. -/
def changeRegistry (s : Session) (result : Except RegistryError Registry) : Reply × Session :=
  match result with
  | .ok registry => (.changed none, { s with registry })
  | .error refusal => (.changed (some refusal), s)

/-- A session with one context more, given its cache. -/
def addContext (s : Session) (name : String) (cache : Nat) (body : ContextBody) : Session :=
  let patterns := body.patterns.map fun solutions => ⟨s.counterCount, solutions⟩
  let context : Context := ⟨⟨body.bindings, body.now, body.base, cache⟩, patterns⟩
  { s with contexts := put name context s.contexts, counterCount := s.counterCount + 1 }

/-- Asks for the blank node of a literal. -/
def askNode (s : Session) (cache : Nat) (literal : Literal) : Reply × Session :=
  match (Eval.request (.forLiteral cache literal)).run s.state with
  | (.ok node, state) => (.node node, { s with state })
  | (.error _, state) => (.done, { s with state })

/-- The surroundings of an expression in a context. -/
def environment (s : Session) (context : Context) : Environment :=
  ⟨s.registry, s.config, context, s.entropy⟩

/-- Evaluates an expression in one of the modes. -/
def runMode (env : Environment) (e : Expression) (mode : Mode) (state : State) :
    Outcome × State :=
  match mode with
  | .value =>
    let (r, state) := (env.evaluate e).run state
    (.term r, state)
  | .condition =>
    let (r, state) := (env.evaluateCondition e).run state
    (.truth r, state)
  | .simplified =>
    let (r, state) := (env.evaluate e.simplify).run state
    (.term r, state)

/-- Evaluates an expression in a context. -/
def runEvaluate (s : Session) (context : Context) (e : Expression) (mode : Mode) :
    Reply × Session :=
  let (outcome, state) := runMode (s.environment context) e mode s.state
  let events := (state.log.take (state.log.length - s.state.log.length)).reverse
  let passed := context.patterns.map fun source => rowsPassed source.counter state.log
  (.evaluated outcome events passed, { s with state })

/-- Goes on with what a name stands for. -/
def withName {α : Type} (s : Session) (table : List (String × α)) (name : String)
    (next : α → Reply × Session) : Reply × Session :=
  match table.lookup name with
  | some value => next value
  | none => (.unknownName name, s)

/-- Runs one command. -/
def run (s : Session) : Command → Reply × Session
  | .newFunction name body => (.done, s.addFunction name body)
  | .take iri name =>
    match s.registry.get? iri with
    | some function => (.truth true, { s with functions := put name function s.functions })
    | none => (.truth false, s)
  | .register iri name replace =>
    s.withName s.functions name fun function =>
      s.changeRegistry (s.registry.register iri function replace)
  | .unregister iri name =>
    s.withName s.functions name fun function =>
      s.changeRegistry (s.registry.unregister iri function)
  | .contains iri => (.truth (s.registry.contains iri), s)
  | .get iri =>
    let names (function : CustomFunction) : List String :=
      (s.functions.filter fun (_, other) => other.isSame function).map Prod.fst
    (.function ((s.registry.get? iri).map fun function =>
      (function.isRaw, (names function).mergeSort)), s)
  | .newCache name =>
    (.done, { s with caches := put name s.cacheCount s.caches, cacheCount := s.cacheCount + 1 })
  | .cacheNode name literal => s.withName s.caches name fun cache => s.askNode cache literal
  | .cacheSize name =>
    s.withName s.caches name fun cache => (.size (s.state.caches cache).length, s)
  | .newContext name none body =>
    (.done, { s.addContext name s.cacheCount body with cacheCount := s.cacheCount + 1 })
  | .newContext name (some shared) body =>
    s.withName s.caches shared fun cache => (.done, s.addContext name cache body)
  | .cloneContext source name =>
    s.withName s.contexts source fun context =>
      (.done, { s with contexts := put name context s.contexts })
  | .bind name variableName term =>
    s.withName s.contexts name fun context =>
      let context := context.bind variableName term
      (.bindings context.bindings, { s with contexts := put name context s.contexts })
  | .lookup name variableName =>
    s.withName s.contexts name fun context => (.found (context.lookup variableName), s)
  | .thawLookup name variableName =>
    s.withName s.contexts name fun context =>
      let inner := context.thaw.thaw
      (.thawed (inner.lookup variableName) inner.toScope inner.patterns.isSome, s)
  | .contextNode name literal =>
    s.withName s.contexts name fun context => s.askNode context.cache literal
  | .thawNode name literal =>
    s.withName s.contexts name fun context => s.askNode context.thaw.cache literal
  | .contextCacheSize name =>
    s.withName s.contexts name fun context => (.size (s.state.caches context.cache).length, s)
  | .evaluate name e mode =>
    s.withName s.contexts name fun context => s.runEvaluate context e mode

/-- Runs commands one after the other. -/
def runAll (s : Session) : List Command → List Reply × Session
  | [] => ([], s)
  | command :: rest =>
    let (reply, s) := s.run command
    let (replies, s) := s.runAll rest
    (reply :: replies, s)

end Session

end SparqlScalar
