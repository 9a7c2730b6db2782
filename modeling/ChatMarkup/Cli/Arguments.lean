import ChatMarkup.Cli.Extras

namespace ChatMarkup.Cli

/-- What is to be done; a text is read, and shown or saved. -/
inductive Command where
  | convert (input : Text) (output? : Option Text)
  | latex (input : Text) (output? : Option Text)
  | symbols
  deriving DecidableEq, Repr, Inhabited

structure Request where
  config? : Option Text := none
  command? : Option Command := none
  deriving DecidableEq, Repr, Inhabited

inductive CommandName where
  | convert
  | latex
  | symbols
  | help
  deriving DecidableEq, Repr, Inhabited

namespace CommandName

def ofText? (t : Text) : Option CommandName :=
  if t = "convert".toList then some convert
  else if t = "latex".toList then some latex
  else if t = "symbols".toList then some symbols
  else if t = "help".toList then some help
  else none

/-- Whether a command has an input, and with it an output. -/
def hasInput : CommandName → Bool
  | convert | latex => true
  | symbols | help => false

end CommandName

/-- Why arguments do not lead to a request. Help is wanted on the program or on a command, and in full
or not. -/
inductive Stop where
  | usage
  | help (topic? : Option CommandName) (full : Bool)
  | version
  deriving DecidableEq, Repr, Inhabited

inductive Token where
  | endOfOptions
  | long (name : Text) (value? : Option Text)
  | short (name : Char) (attached : Text)
  | plain (text : Text)
  deriving DecidableEq, Repr, Inhabited

/-- Reads one argument; a lone hyphen is plain. -/
def Token.of (arg : Text) : Token :=
  match arg with
  | ['-', '-'] => .endOfOptions
  | '-' :: '-' :: name =>
    match Text.cut? ['='] name with
    | some (name, value) => .long name (some value)
    | none => .long name none
  | '-' :: name :: attached => .short name attached
  | _ => .plain arg

/-- Whether an argument can be the value of the option before it. -/
def isValue (arg : Text) : Bool := !isHyphenated arg || arg == ['-']

theorem Token.of_of_isValue {arg : Text} (h : isValue arg = true) : Token.of arg = .plain arg := by
  cases arg with
  | nil => rfl
  | cons c t =>
    by_cases hc : c = '-'
    · subst hc
      cases t with
      | nil => rfl
      | cons d t => simp [isValue, isHyphenated] at h
    · unfold Token.of
      split <;> simp_all

/-- The value of an option: one that is attached to it, or the next argument. Gives the arguments
after the value. -/
def optionValue (attached? : Option Text) (args : List Text) : Except Stop (Text × List Text) :=
  match attached?, args with
  | some value, _ => .ok (value, args)
  | none, value :: rest => if isValue value then .ok (value, rest) else .error .usage
  | none, [] => .error .usage

theorem length_optionValue_le {attached? : Option Text} {args rest : List Text} {value : Text}
    (h : optionValue attached? args = .ok (value, rest)) : rest.length ≤ args.length := by
  unfold optionValue at h
  split at h
  · cases h
    exact Nat.le_refl _
  · split at h
    · cases h
      exact Nat.le_succ _
    · cases h
  · cases h

/-- The value attached to a short option; an equals sign before it is left out. -/
def attachedValue? : Text → Option Text
  | [] => none
  | '=' :: value => some value
  | value => some value

structure Form where
  config? : Option Text := none
  input? : Option Text := none
  output? : Option Text := none
  deriving DecidableEq, Repr, Inhabited

namespace Form

def addInput (f : Form) (command : CommandName) (text : Text) : Except Stop Form :=
  if command.hasInput && f.input?.isNone then .ok { f with input? := some text } else .error .usage

def addOutput (f : Form) (path : Text) : Except Stop Form :=
  if f.output?.isNone then .ok { f with output? := some path } else .error .usage

def addConfig (f : Form) (path : Text) : Except Stop Form :=
  if f.config?.isNone then .ok { f with config? := some path } else .error .usage

/-- Reads the arguments of a command, in order; the first fault or request for help ends it. -/
def read (command : CommandName) (f : Form) (args : List Text) : Except Stop Form :=
  match args with
  | [] => .ok f
  | arg :: args =>
    let withValue (attached? : Option Text) (add : Form → Text → Except Stop Form) :
        Except Stop Form :=
      match _h : optionValue attached? args with
      | .error e => .error e
      | .ok (value, rest) => do read command (← add f value) rest
    match Token.of arg with
    | .endOfOptions => args.foldlM (·.addInput command) f
    | .plain text => do read command (← f.addInput command text) args
    | .long name value? =>
      if name = "help".toList then
        .error (if value?.isNone then .help (some command) true else .usage)
      else if name = "config".toList then withValue value? addConfig
      else if name = "output".toList ∧ command.hasInput = true then withValue value? addOutput
      else .error .usage
    | .short name attached =>
      if name = 'h' then .error (.help (some command) false)
      else if name = 'o' ∧ command.hasInput = true then withValue (attachedValue? attached) addOutput
      else .error .usage
termination_by args.length
decreasing_by
  all_goals simp only [List.length_cons]
  · have := length_optionValue_le _h
    omega
  · omega

end Form

/-- Reads the arguments of a command with an input. A file of settings named there wins over one
named before. -/
def parseInputCommand (config? : Option Text) (name : CommandName)
    (command : Text → Option Text → Command) (args : List Text) : Except Stop Request := do
  let f ← Form.read name {} args
  match f.input? with
  | some input => return ⟨f.config?.or config?, some (command input f.output?)⟩
  | none => .error .usage

def parseCommand (config? : Option Text) (args : List Text) : CommandName → Except Stop Request
  | .convert => parseInputCommand config? .convert .convert args
  | .latex => parseInputCommand config? .latex .latex args
  | .symbols => do
    let f ← Form.read .symbols {} args
    return ⟨f.config?.or config?, some .symbols⟩
  | .help =>
    match args with
    | [] => .error (.help none true)
    | [topic] =>
      match CommandName.ofText? topic with
      | some command => .error (.help (some command) true)
      | none => .error .usage
    | _ => .error .usage

def parseFrom (config? : Option Text) (args : List Text) : Except Stop Request :=
  match args with
  | [] => if config?.isNone then .error .usage else .ok ⟨config?, none⟩
  | arg :: args =>
    match Token.of arg with
    | .endOfOptions => if args.isEmpty && config?.isSome then .ok ⟨config?, none⟩ else .error .usage
    | .plain name =>
      match CommandName.ofText? name with
      | some command => parseCommand config? args command
      | none => .error .usage
    | .long name value? =>
      if name = "help".toList ∧ value? = none then .error (.help none true)
      else if name = "version".toList ∧ value? = none then .error .version
      else if name = "config".toList ∧ config? = none then
        match _h : optionValue value? args with
        | .error e => .error e
        | .ok (path, rest) => parseFrom (some path) rest
      else .error .usage
    | .short name _ =>
      .error (if name = 'h' then .help none false else if name = 'V' then .version else .usage)
termination_by args.length
decreasing_by
  have := length_optionValue_le _h
  simp only [List.length_cons]
  omega

def isBareInput (args : List Text) : Bool :=
  match args with
  | [] => false
  | first :: _ => isValue first && (CommandName.ofText? first).isNone

/-- Reads all arguments. Where they fail, and start with an input in place of a command, that input
is to be converted. -/
def parse (args : List Text) : Except Stop Request :=
  match parseFrom none args with
  | .ok r => .ok r
  | .error e => if isBareInput args then parseFrom none ("convert".toList :: args) else .error e

theorem parse_of_isBareInput {args : List Text} (h : isBareInput args = true) :
    parse args = parseFrom none ("convert".toList :: args) := by
  cases args with
  | nil => cases h
  | cons first rest =>
    have hbare := h
    simp only [isBareInput, Bool.and_eq_true, Option.isNone_iff_eq_none] at h
    obtain ⟨hvalue, hname⟩ := h
    have hfails : parseFrom none (first :: rest) = .error .usage := by
      rw [parseFrom, Token.of_of_isValue hvalue]
      simp [hname]
    rw [parse, hfails]
    exact if_pos hbare

end ChatMarkup.Cli
