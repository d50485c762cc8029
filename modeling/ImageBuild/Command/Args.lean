import ImageBuild.Text.Split

/-! The arguments of the command line. -/

namespace ImageBuild.Command

/-- What an option stands for: whether it is given, or a value. -/
inductive Kind
  | switch
  | text
  | path
  | number
  deriving DecidableEq

/-- An option. -/
structure Flag where
  name : String
  short : Option Char
  kind : Kind
  repeatable : Bool

/-- What arguments say. A word that is no option comes with the arguments after it. -/
inductive Mark
  | flag (f : Flag)
  | value (f : Flag) (value : String)
  | word (word : String) (rest : List String)
  | escape
  | help
  | bad

/-- Whether an argument is an option, or at least looks like one. -/
def isDashed (arg : String) : Bool :=
  match arg.toList with
  | '-' :: _ :: _ => true
  | _ => false

/-- What letters after one dash say, and the option that still wants a value. -/
def shortMarks (flags : List Flag) : List Char → List Mark × Option Flag
  | [] => ([], none)
  | 'h' :: _ => ([.help], none)
  | c :: rest =>
    match flags.find? (fun f => f.short = some c) with
    | none => ([.bad], none)
    | some f =>
      if f.kind = .switch then
        let (marks, wanting) := shortMarks flags rest
        (.flag f :: marks, wanting)
      else match rest with
        | [] => ([], some f)
        | '=' :: value => ([.value f (String.ofList value)], none)
        | value => ([.value f (String.ofList value)], none)

/-- What a word after two dashes says, and the option that still wants a value. -/
def longMarks (flags : List Flag) (word : String) : List Mark × Option Flag :=
  let (name, value) := match Text.splitOnce? '=' word with
    | some (name, value) => (name, some value)
    | none => (word, none)
  if name = "help" then ([if value.isSome then .bad else .help], none)
  else match flags.find? (fun f => f.name = name) with
    | none => ([.bad], none)
    | some f =>
      match decide (f.kind = .switch), value with
      | true, none => ([.flag f], none)
      | true, some _ => ([.bad], none)
      | false, some value => ([.value f value], none)
      | false, none => ([], some f)

/-- What a dashed argument says, and the option that still wants a value. -/
def dashedMarks (flags : List Flag) (arg : String) : List Mark × Option Flag :=
  match arg.toList with
  | '-' :: '-' :: word => longMarks flags (String.ofList word)
  | _ :: letters => shortMarks flags letters
  | [] => ([], none)

/-- What arguments after two dashes alone say: they are words, whatever they look like. -/
def words : List String → List Mark
  | [] => []
  | arg :: rest => .word arg rest :: words rest

/-- What arguments say. The value of an option may be the next argument, if that is not dashed. -/
def scan (flags : List Flag) : List String → List Mark
  | [] => []
  | arg :: rest =>
    -- After two dashes alone nothing is an option.
    if arg = "--" then .escape :: words rest
    else if ¬isDashed arg then .word arg rest :: scan flags rest
    else match dashedMarks flags arg with
      | (marks, none) => marks ++ scan flags rest
      | (marks, some f) =>
        match rest with
        | [] => marks ++ [.bad]
        | value :: rest =>
          -- A value that looks like an option has to be attached to its own.
          if isDashed value then marks ++ [.bad] else marks ++ .value f value :: scan flags rest

/-- A number of 64 bits in digits, possibly after a plus sign. -/
def number? (text : String) : Option Nat :=
  let digits := match text.toList with
    | '+' :: digits => digits
    | digits => digits
  if digits.isEmpty || !digits.all Char.isDigit then none
  else
    let n := digits.foldl (fun n c => n * 10 + (c.toNat - '0'.toNat)) 0
    if n < UInt64.size then some n else none

/-- Whether an option can have a value. -/
def Kind.admits : Kind → String → Bool
  | .path, value => !value.isEmpty
  | .number, value => (number? value).isSome
  | _, _ => true

/-- What has been given on one level of the command line. -/
structure Given where
  switches : List String
  values : List (String × String)
  words : List String

namespace Given

/-- Nothing at all. -/
def nothing : Given := ⟨[], [], []⟩

/-- Whether a switch is given. -/
def has (g : Given) (name : String) : Bool := g.switches.contains name

/-- The value of an option. -/
def value? (g : Given) (name : String) : Option String :=
  (g.values.find? (fun v => v.1 = name)).map (·.2)

/-- All values of an option. -/
def allOf (g : Given) (name : String) : List String :=
  (g.values.filter (fun v => v.1 = name)).map (·.2)

end Given

/-- Why no command comes out of the arguments: help is asked for, or they are wrong. -/
inductive Stop
  | help
  | usage
  deriving DecidableEq

/-- Gathers what marks give, with no more words than there may be. -/
def gather (places : Nat) (g : Given) : List Mark → Except Stop Given
  | [] => .ok g
  | .escape :: rest => gather places g rest
  | .help :: _ => .error .help
  | .bad :: _ => .error .usage
  | .flag f :: rest =>
    if g.has f.name then .error .usage
    else gather places { g with switches := f.name :: g.switches } rest
  | .value f value :: rest =>
    if ¬f.kind.admits value ∨ (¬f.repeatable ∧ (g.value? f.name).isSome) then .error .usage
    else gather places { g with values := g.values ++ [(f.name, value)] } rest
  | .word word _ :: rest =>
    if places ≤ g.words.length then .error .usage
    else gather places { g with words := g.words ++ [word] } rest

/-- The marks before the first word, that word, and the arguments after it. -/
def splitAtWord : List Mark → Option (List Mark × String × List String)
  | [] | .escape :: _ => none
  | .word word rest :: _ => some ([], word, rest)
  | mark :: marks => (splitAtWord marks).map (fun p => (mark :: p.1, p.2))

/-- What the build command is to do. -/
structure BuildArgs where
  platform : String
  name : String
  image : String
  resources : List String
  wait : Bool
  interval : Nat
  deriving DecidableEq

/-- A command. -/
inductive Request
  | build (args : BuildArgs)
  | reconcile (key : String)
  | status (key : String) (json : Bool)
  | cancel (key : String)
  | config
  | version
  deriving DecidableEq

/-- A switch. -/
def switch (name : String) (short : Option Char) : Flag := ⟨name, short, .switch, false⟩

/-- The options of all commands. -/
def globalFlags : List Flag := [switch "verbose" (some 'v'), ⟨"store-dir", none, .path, false⟩]

/-- The commands by name. -/
def commandNames : List String := ["build", "reconcile", "status", "cancel", "config", "version"]

/-- The options of a command, and the number of its words. -/
def form : String → List Flag × Nat
  | "build" =>
    ([⟨"platform", some 'p', .path, false⟩, ⟨"name", some 'n', .text, false⟩,
      ⟨"image", some 'i', .text, false⟩, ⟨"resource", some 'r', .text, true⟩,
      switch "wait" (some 'w'), ⟨"interval", none, .number, false⟩], 0)
  | "status" => ([switch "json" none], 1)
  | "reconcile" | "cancel" => ([], 1)
  | _ => ([], 0)

/-- The seconds between two looks at a build that is waited for, where none are given. -/
def usualInterval : Nat := 5

/-- The command that has been given, if nothing that it needs is missing. -/
def request? (name : String) (g : Given) : Option Request := do
  match name with
  | "build" =>
    return .build {
      platform := ← g.value? "platform"
      name := ← g.value? "name"
      image := ← g.value? "image"
      resources := g.allOf "resource"
      wait := g.has "wait"
      interval := ((g.value? "interval").bind number?).getD usualInterval }
  | "reconcile" => return .reconcile (← g.words.head?)
  | "status" => return .status (← g.words.head?) (g.has "json")
  | "cancel" => return .cancel (← g.words.head?)
  | "config" => return .config
  | "version" => return .version
  | _ => none

/-- A command with the directories of builds that are given for it, the one after its name first. -/
structure Invocation where
  request : Request
  storeDirs : List String

/-- Whether arguments name what help can be given about: the program, or one of its commands. -/
def isTopic (names : List String) : List String → Bool
  | [] => true
  | [name] => name = "help" || names.contains name
  | _ => false

/-- The command in arguments, among commands that have some options in common. -/
def parse (globals : List Flag) (names : List String) (args : List String) : Except Stop Invocation := do
  let marks := scan globals args
  match splitAtWord marks with
  | none =>
    let _ ← gather 0 .nothing marks
    .error .usage
  | some (before, name, rest) =>
    -- The options before the command are checked before its own.
    let outer ← gather 0 .nothing before
    if name = "help" then .error (if isTopic names rest then .help else .usage)
    else if ¬names.contains name then .error .usage
    else
      let (flags, places) := form name
      let inner ← gather places .nothing (scan (flags ++ globals) rest)
      match request? name inner with
      | some request =>
        .ok ⟨request, (inner.value? "store-dir").toList ++ (outer.value? "store-dir").toList⟩
      | none => .error .usage

end ImageBuild.Command
