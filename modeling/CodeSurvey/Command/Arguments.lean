import CodeSurvey.Text.Digits

/-!
# Command-line arguments

Options have one or more names, may be shortened as long as that is not ambiguous, and may be
joined: `--name=value`, `-nvalue`, and several switches of one letter after one hyphen. After two
hyphens nothing is an option. What is not understood is refused only after all arguments have been
looked at, so that a call for help before the end is heard.

## Main definitions

* `OptionSpec`, `Word.read`: options, and what an argument is among them.
* `Options`, `Invocation`, `Invocation.read`: what some arguments ask for.
-/

namespace CodeSurvey

/-! ## Options -/

/-- What options are for. -/
inductive OptionKey where
  | help
  | verbose
  | maxDepth
  | maxExamples
  | maxFileSize
  | output
  | quiet
  | logFile
deriving Repr, DecidableEq

/-- An option with its names; a switch takes no value. -/
structure OptionSpec where
  key : OptionKey
  names : List Text
  takesValue : Bool
deriving Repr, DecidableEq

/-- The options in front of the command. -/
def commonOptions : List OptionSpec := [
  ⟨.help, ["-h", "--help"], false⟩, ⟨.verbose, ["-v", "--verbose"], false⟩]

/-- The options of the command. -/
def surveyOptions : List OptionSpec := commonOptions ++ [
  ⟨.maxDepth, ["--max-depth"], true⟩, ⟨.maxExamples, ["--max-examples"], true⟩,
  ⟨.maxFileSize, ["--max-file-size-kb"], true⟩, ⟨.output, ["-o", "--output"], true⟩,
  ⟨.quiet, ["-q", "--quiet"], false⟩, ⟨.logFile, ["--log-file"], true⟩]

/-- The option of a name. -/
def optionOf? (specs : List OptionSpec) (name : Text) : Option OptionSpec :=
  specs.find? fun s => s.names.contains name

/-! ## Words -/

/-- A value that is joined to an option, by an equality sign or right behind it. -/
structure JoinedValue where
  text : Text
  bySign : Bool
deriving Repr, DecidableEq

/-- What an argument is. -/
inductive Word where
  /-- It is no option. -/
  | plain (t : Text)
  /-- Two hyphens. -/
  | separator
  /-- An option, by its name or its beginning, with the value that is joined to it. -/
  | option (spec : OptionSpec) (name : Text) (value : Option JoinedValue)
  /-- It looks like an option, but there is none of the name. -/
  | unknown
deriving Repr, DecidableEq

/-- Why arguments are not understood. -/
inductive UsageError where
  | ambiguous
  | unexpectedValue
  | missingValue
  | badNumber
  | noCommand
  | unknownCommand
  | unrecognized
deriving Repr, DecidableEq

namespace Word

/-- A text cut at its first equality sign, if there is one. -/
def cutValue (t : Text) : Text × Option JoinedValue :=
  match t.dropWhile (· != '=') with
  | [] => (t, none)
  | _ :: value => (t.takeWhile (· != '='), some ⟨value, true⟩)

/-- The options that a beginning may mean, each with its name and the value that is joined to it. A
single hyphen and a letter may have a value right behind them. -/
def meanings (specs : List OptionSpec) (t : Text) : List Word :=
  specs.flatMap fun s => s.names.filterMap fun name =>
    if "--".toList.isPrefixOf t then
      let (start, value) := cutValue t
      if start.isPrefixOf name then some (option s name value) else none
    else if name == t.take 2 then some (option s name (some ⟨t.drop 2, false⟩))
    else if t.isPrefixOf name then some (option s name none)
    else none

/-- Whether a text is a negative number with or without a point. -/
def isNegativeNumber (t : Text) : Bool :=
  let t := if t.getLast? == some '\n' then t.dropLast else t
  match t with
  | '-' :: body =>
    let whole := body.takeWhile Text.isDecimal
    match body.dropWhile Text.isDecimal with
    | [] => !whole.isEmpty
    | '.' :: fraction => !fraction.isEmpty && fraction.all Text.isDecimal
    | _ => false
  | _ => false

/-- What an argument is among some options. -/
def ofText (specs : List OptionSpec) (t : Text) : Except UsageError Word :=
  if t.head? != some '-' || t.length < 2 then .ok (plain t)
  else match optionOf? specs t with
    | some s => .ok (option s t none)
    | none =>
      let (name, value) := cutValue t
      match if value.isSome then optionOf? specs name else none with
      | some s => .ok (option s name value)
      | none =>
        match meanings specs t with
        | [w] => .ok w
        | _ :: _ => .error .ambiguous
        | [] => .ok (if isNegativeNumber t || t.contains ' ' then plain t else unknown)

/-- What some arguments are. After two hyphens nothing is an option. -/
def read (specs : List OptionSpec) : List Text → Except UsageError (List Word)
  | [] => .ok []
  | t :: rest =>
    if t == "--".toList then .ok (separator :: rest.map plain)
    else do
      let w ← ofText specs t
      return w :: (← read specs rest)

end Word

/-! ## Requests -/

/-- What the command is asked to do. -/
structure Options where
  path : Text := ['.']
  verbose : Bool := false
  quiet : Bool := false
  maxDepth : Option Int := none
  maxExamples : Option Int := none
  maxFileSize : Option Int := none
  output : Option Text := none
  logFile : Option Text := none
deriving Repr, DecidableEq

/-- What some arguments ask for. -/
inductive Invocation where
  | survey (o : Options)
  | help
  | refused (e : UsageError)
deriving Repr, DecidableEq

/-- What is known while arguments are looked at: the request so far, whether it has a path, and
whether something was not recognized. -/
structure Request where
  options : Options := {}
  pathGiven : Bool := false
  unrecognized : Bool := false
deriving Repr, DecidableEq

/-- Why looking at arguments stops before their end. -/
inductive Stop where
  | help
  | refused (e : UsageError)
deriving Repr, DecidableEq

namespace Request

/-- The number that a value spells. -/
def number (value : Text) : Except Stop Int :=
  match Text.toInt? 10 value with
  | some n => .ok n
  | none => .error (.refused .badNumber)

/-- The request with one more option. -/
def put (r : Request) (key : OptionKey) (value : Text) : Except Stop Request :=
  let o := r.options
  match key with
  | .help => .error .help
  | .verbose => .ok { r with options := { o with verbose := true } }
  | .quiet => .ok { r with options := { o with quiet := true } }
  | .maxDepth => (number value).map fun n => { r with options := { o with maxDepth := some n } }
  | .maxExamples =>
    (number value).map fun n => { r with options := { o with maxExamples := some n } }
  | .maxFileSize =>
    (number value).map fun n => { r with options := { o with maxFileSize := some n } }
  | .output => .ok { r with options := { o with output := some value } }
  | .logFile => .ok { r with options := { o with logFile := some value } }

/-- The request with several switches more. -/
def putSwitches (r : Request) : List OptionKey → Except Stop Request
  | [] => .ok r
  | key :: rest => (r.put key []).bind (·.putSwitches rest)

/-- Switches that are joined behind one hyphen: those that stand alone, and the option at the end
with the value that is joined to it. A letter at the end that is no option leaves none. -/
structure Cluster where
  switches : List OptionKey
  last : Option (OptionSpec × Option Text)
deriving Repr, DecidableEq

/-- The switches that begin with the given one and go on with the letters of a text. -/
def cluster (specs : List OptionSpec) (spec : OptionSpec) (bySign : Bool) (t : Text) :
    Except Stop Cluster :=
  if spec.takesValue then .ok ⟨[], some (spec, some t)⟩
  else match t with
    | [] => .error (.refused .unexpectedValue)
    | c :: rest =>
      if bySign || c == '-' then .error (.refused .unexpectedValue)
      else match optionOf? specs ['-', c] with
        | none => .ok ⟨[spec.key], none⟩
        | some next =>
          let more : Except Stop Cluster := match rest with
            | [] => .ok ⟨[], some (next, none)⟩
            | d :: value =>
              if d == '=' then cluster specs next true value
              else cluster specs next false (d :: value)
          more.map fun m => { m with switches := spec.key :: m.switches }
termination_by t.length

/-- The switches that an option and what is joined to it stand for. Only options of one letter can
be joined. -/
def clusterOf (specs : List OptionSpec) (spec : OptionSpec) (name : Text)
    (value : Option JoinedValue) : Except Stop Cluster :=
  match value with
  | none => .ok ⟨[], some (spec, none)⟩
  | some v =>
    if !spec.takesValue && "--".toList.isPrefixOf name then .error (.refused .unexpectedValue)
    else cluster specs spec v.bySign v.text

/-- The request after an option with what is joined to it, and the words left after its value. -/
def takeOption (specs : List OptionSpec) (r : Request) (spec : OptionSpec) (name : Text)
    (value : Option JoinedValue) (rest : List Word) : Except Stop (Request × List Word) := do
  let found ← clusterOf specs spec name value
  match found.last with
  | none =>
    let r ← r.putSwitches found.switches
    return ({ r with unrecognized := true }, rest)
  | some (spec, some value) => return (← (← r.putSwitches found.switches).put spec.key value, rest)
  | some (spec, none) =>
    if spec.takesValue then
      match rest with
      | .plain value :: rest =>
        return (← (← r.putSwitches found.switches).put spec.key value, rest)
      | _ => throw (.refused .missingValue)
    else return (← r.putSwitches (found.switches ++ [spec.key]), rest)

/-- The request with a path, if it has none yet. -/
def putPath (r : Request) (t : Text) : Request :=
  if r.pathGiven then { r with unrecognized := true }
  else { r with options := { r.options with path := t }, pathGiven := true }

/-- The request after the words of the command. Two hyphens count as a word that is not recognized
once there is a path, unless they stand right behind it. -/
def takeWords (specs : List OptionSpec) : (fuel : Nat) → (afterPath : Bool) → Request → List Word →
    Except Stop Request
  | 0, _, r, _ => .ok r
  | _, _, r, [] => .ok r
  | fuel + 1, _, r, .option spec name value :: rest => do
    let (r, rest) ← r.takeOption specs spec name value rest
    takeWords specs fuel false r rest
  | fuel + 1, _, r, .unknown :: rest =>
    takeWords specs fuel false { r with unrecognized := true } rest
  | fuel + 1, afterPath, r, .separator :: rest =>
    if r.pathGiven then
      takeWords specs fuel false { r with unrecognized := r.unrecognized || !afterPath } rest
    else match rest with
      | .plain t :: rest => takeWords specs fuel false (r.putPath t) rest
      | rest => takeWords specs fuel false { r with pathGiven := true } rest
  | fuel + 1, _, r, .plain t :: rest => takeWords specs fuel (!r.pathGiven) (r.putPath t) rest

/-- The request after the arguments of the command. -/
def takeArguments (r : Request) (ts : List Text) : Except Stop Request :=
  match Word.read surveyOptions ts with
  | .error e => .error (.refused e)
  | .ok ws => takeWords surveyOptions (ws.length + 1) false r ws

/-- The name of the command. -/
def commandName : Text := "analyze"

/-- The request after the words in front of the command and what follows it; the words stand for the
first of the arguments. -/
def takeCommand : (fuel : Nat) → Request → List Word → List Text → Except Stop Request
  | fuel + 1, r, .option spec name value :: ws, _ :: ts => do
    let (r, _) ← r.takeOption commonOptions spec name value ws
    takeCommand fuel r ws ts
  | fuel + 1, r, .unknown :: ws, _ :: ts => takeCommand fuel { r with unrecognized := true } ws ts
  | _, r, .plain t :: _, _ :: ts =>
    if t == commandName then r.takeArguments ts else .error (.refused .unknownCommand)
  | _, _, _, _ => .error (.refused .noCommand)

end Request

/-- What some arguments ask for. -/
def Invocation.read (ts : List Text) : Invocation :=
  match Word.read commonOptions ts with
  | .error e => .refused e
  | .ok ws =>
    match Request.takeCommand ws.length {} ws ts with
    | .error .help => .help
    | .error (.refused e) => .refused e
    | .ok r => if r.unrecognized then .refused .unrecognized else .survey r.options

end CodeSurvey
