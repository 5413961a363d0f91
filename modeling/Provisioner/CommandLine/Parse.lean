import Provisioner.CommandLine.Environment
import Provisioner.CommandLine.Parameter

/-!
Reading a command line, word by word.

A value that stands in the word after its parameter is looked at only when the next parameter comes
or the line ends; a word that nobody knows is reported before that.
-/

namespace Provisioner.CommandLine

inductive Fault where
  | unknown (word : String)
  | needlessValue (value : String) (p : Parameter)
  | missingValue (p : Parameter)
  | repeated (p : Parameter)
  | invalid (value : String) (p : Parameter) (why : String)
  | required
  deriving Repr, DecidableEq

def quote (style : Terminal.Style) (word : String) : String :=
  "'" ++ Terminal.styled style word ++ "'"

/-- The wording for a terminal, on which everything stands out that is quoted here. -/
def Fault.message : Fault → String
  | .unknown word => "unexpected argument " ++ quote .doubtful word ++ " found"
  | .needlessValue value p =>
    "unexpected value " ++ quote .doubtful value ++ " for " ++ quote .strong p.usage ++
      " found; no more were expected"
  | .missingValue p =>
    "a value is required for " ++ quote .doubtful p.usage ++ " but none was supplied"
  | .repeated p => "the argument " ++ quote .doubtful p.usage ++ " cannot be used multiple times"
  | .invalid value p why =>
    "invalid value " ++ quote .doubtful value ++ " for " ++ quote .strong p.usage ++
      (if why = "" then "" else ": " ++ why)
  | .required => "the following required arguments were not provided:"

/-- Why reading ends before the line does. -/
inductive Halt where
  | fault (f : Fault)
  | help
  | version
  deriving Repr, DecidableEq

abbrev Reading := Except Halt

/-- The values that were given, by the names of the parameters. -/
abbrev Values := List (String × String)

def Values.has (vs : Values) (p : Parameter) : Bool := (vs.lookup p.name).isSome

structure Progress where
  values : Values := []
  /-- The parameter that came last and its value, if that was in the next word. -/
  pending : Option (Parameter × Option String) := none
  /-- The next word is the value of the pending parameter. -/
  expecting : Bool := false
  /-- After two dashes alone nothing is a parameter any more. -/
  plain : Bool := false

def fault {α : Type} (f : Fault) : Reading α := .error (.fault f)

/-- A value is entered if there is one, it is the first of its parameter, and it is valid. -/
def enter (vs : Values) (p : Parameter) (value? : Option String) : Reading Values :=
  match value? with
  | none => fault (.missingValue p)
  | some v =>
    if vs.has p then fault (.repeated p)
    else match p.kind.check v with
      | .error why => fault (.invalid v p why)
      | .ok () => .ok (vs ++ [(p.name, v)])

/-- The pending parameter is entered. -/
def resolve (s : Progress) : Reading Progress :=
  match s.pending with
  | none => .ok s
  | some (p, value?) => do
    let values ← enter s.values p value?
    return { s with values, pending := none, expecting := false }

/-- A switch takes effect. -/
def flip (s : Progress) (p : Parameter) : Reading Progress := do
  let s ← resolve s
  if p = help then .error .help
  else if p = version then .error .version
  else
    let values ← enter s.values p (some "true")
    return { s with values }

def named? (name : String) : Option Parameter := parameters.find? (·.name == name)

def lettered? (c : Char) : Option Parameter := parameters.find? (·.letter? == some c)

/-- A word that begins with two dashes: a name, and perhaps a value after an equals sign. -/
def long (s : Progress) (name : String) (value? : Option String) : Reading Progress :=
  match named? name with
  | none => fault (.unknown ("--" ++ name))
  | some p =>
    if p.takesValue then do
      let s ← resolve s
      match value? with
      | some v => return { s with values := ← enter s.values p (some v) }
      | none => return { s with pending := some (p, none), expecting := true }
    else match value? with
      | some v => fault (.needlessValue v p)
      | none => flip s p

/-- Letters after one dash, each a switch. -/
def letters (s : Progress) : List Char → Reading Progress
  | [] => .ok s
  | c :: cs =>
    match lettered? c with
    | none => fault (.unknown (String.ofList ['-', c]))
    | some p => do letters (← flip s p) cs

/-- A word that is no parameter. -/
def operand (s : Progress) (word : String) : Reading Progress :=
  match s.expecting, s.pending with
  | true, some (p, _) => .ok { s with pending := some (p, some word), expecting := false }
  | _, _ => fault (.unknown word)

def readWord (s : Progress) (word : String) : Reading Progress :=
  if s.plain then fault (.unknown word)
  else match word.toList with
    | ['-', '-'] => .ok { s with plain := true }
    | '-' :: '-' :: cs =>
      let name := String.ofList (cs.takeWhile (· != '='))
      match cs.dropWhile (· != '=') with
      | [] => long s name none
      | _ :: v => long s name (some (String.ofList v))
    | '-' :: c :: cs => letters s (c :: cs)
    | _ => operand s word

/-- What the environment says about a parameter that is not on the line. -/
def consult (env : Environment) (vs : Values) (p : Parameter) : Reading Values :=
  match p.inherited?.bind fun v => env.lookup v with
  | none => .ok vs
  | some v =>
    if vs.has p then .ok vs
    else if v = "" ∧ p.kind = .switch then fault (.missingValue p)
    else enter vs p (some v)

/-- The values of a line; the connection is needed unless only the manifest is asked for. -/
def read (words : List String) (env : Environment) : Reading Values := do
  let s ← words.foldlM readWord {}
  let s ← resolve s
  let vs ← parameters.foldlM (consult env) s.values
  if vs.has connection || vs.has printManifest then return vs else fault .required

/-- What the values are like that are read, by a test of them. -/
theorem exists_read (words : List String) (env : Environment) {P : Values → Prop} [DecidablePred P]
    (h : (match read words env with
      | .ok vs => decide (P vs)
      | .error _ => false) = true) : ∃ vs, read words env = .ok vs ∧ P vs := by
  cases hvs : read words env with
  | error e =>
    rw [hvs] at h
    cases h
  | ok vs =>
    rw [hvs] at h
    exact ⟨vs, rfl, of_decide_eq_true h⟩

end Provisioner.CommandLine
