/-
Reading command lines. Options have long names and some have a letter; letters can be put together
behind one dash, and a value stands behind its option, with or without an equals sign. Each option is
given at most once, except for protected patterns. The settings file can be named before or behind the
command.
-/
import ApiScaffold.Config

namespace ApiScaffold.CommandLine

inductive Flag where
  | config
  | version
  | input
  | output
  | templates
  | implementation
  | format
  | protect
  | force
  | yes
  deriving DecidableEq, Repr, Inhabited

/-- How an overview of an API is written. -/
inductive OverviewForm where
  | yaml
  | json
  deriving DecidableEq, Repr, Inhabited

namespace OverviewForm

def name : OverviewForm → String
  | .yaml => "yaml"
  | .json => "json"

def ofName? (name : String) : Option OverviewForm := [OverviewForm.yaml, .json].find? (·.name == name)

end OverviewForm

namespace Flag

def name : Flag → String
  | .config => "config"
  | .version => "version"
  | .input => "input"
  | .output => "output"
  | .templates => "templates"
  | .implementation => "implementation"
  | .format => "format"
  | .protect => "protect"
  | .force => "force"
  | .yes => "yes"

def letter? : Flag → Option Char
  | .config => some 'c'
  | .version => some 'V'
  | .input => some 'i'
  | .output => some 'o'
  | .templates => some 't'
  | .yes => some 'y'
  | _ => none

/-- Whether a value belongs to the option. -/
def takesValue : Flag → Bool
  | .version => false
  | .force => false
  | .yes => false
  | _ => true

/-- Whether a text is a value of the option. -/
def accepts (f : Flag) (value : String) : Bool :=
  match f with
  | .implementation => (Implementation.ofId? value).isSome
  | .format => (OverviewForm.ofName? value).isSome
  | .protect => true
  | .version => true
  | .force => true
  | .yes => true
  | _ => !value.isEmpty

end Flag

/-- The options that were given, with their values, in order. -/
abbrev Given := List (Flag × String)

namespace Given

def has (g : Given) (f : Flag) : Bool := (g.lookup f).isSome

def path? (g : Given) (f : Flag) : Option Path := (g.lookup f).map Path.mk

def values (g : Given) (f : Flag) : List String := (g.filter (·.1 == f)).map (·.2)

/-- Adds an option, if it may be given again and its value is one. -/
def add? (g : Given) (f : Flag) (value : String) : Option Given :=
  if f.accepts value && (f == .protect || !g.has f) then some (g ++ [(f, value)]) else none

end Given

/-- What one word of a command line is. -/
inductive Word where
  | plain
  /-- The end of all options. -/
  | separator
  | long (name : String) (value : Option String)
  | letters (cs : List Char)
  deriving DecidableEq, Repr, Inhabited

def Word.ofText (s : String) : Word :=
  match s.toList with
  | ['-', '-'] => .separator
  | '-' :: '-' :: cs =>
    let name := String.ofList (cs.takeWhile (· != '='))
    match cs.dropWhile (· != '=') with
    | _ :: value => .long name (some (String.ofList value))
    | [] => .long name none
  | ['-'] => .plain
  | '-' :: cs => .letters cs
  | _ => .plain

/-- The value behind a letter in the same word. -/
def attached : List Char → String
  | '=' :: cs => String.ofList cs
  | cs => String.ofList cs

/-- Options by their letters, up to one whose value is in the next word; the version stops all. -/
def readLetters (allowed : List Flag) : Given → List Char → Option (Given × Option Flag)
  | g, [] => some (g, none)
  | g, c :: cs =>
    match allowed.find? (·.letter? == some c) with
    | none => none
    | some f =>
      if !f.takesValue then do
        let g ← g.add? f ""
        if f == .version then some (g, none) else readLetters allowed g cs
      else if cs.isEmpty then some (g, some f)
      else (g.add? f (attached cs)).map fun g => (g, none)

/-- Options up to the first word that is none, and the words from there on. -/
def readOptions (allowed : List Flag) : Given → List String → Option (Given × List String)
  | g, [] => some (g, [])
  | g, w :: ws =>
    if g.has .version then some (g, [])
    else
      /- Goes on behind the value in the next word. -/
      let behindValue (f : Flag) (g : Given) : Option (Given × List String) :=
        match ws with
        | v :: ws => if Word.ofText v == .plain then (g.add? f v).bind (readOptions allowed · ws) else none
        | [] => none
      match Word.ofText w with
      | .plain => some (g, w :: ws)
      | .separator => if ws.isEmpty then some (g, []) else none
      | .long name value =>
        match allowed.find? (·.name == name), value with
        | none, _ => none
        | some f, some v => if f.takesValue then (g.add? f v).bind (readOptions allowed · ws) else none
        | some f, none => if f.takesValue then behindValue f g else (g.add? f "").bind (readOptions allowed · ws)
      | .letters cs =>
        match readLetters allowed g cs with
        | none => none
        | some (g, none) => readOptions allowed g ws
        | some (g, some f) => behindValue f g

inductive Command where
  | version
  | generate (overrides : ConfigOverrides) (yes : Bool)
  | validate (input : Option Path)
  | inspect (input : Option Path) (form : OverviewForm)
  | init (force : Bool)

structure Invocation where
  /-- The settings file. -/
  config : Path
  command : Command

/-- The options of a command. -/
def commandFlags? (name : String) : Option (List Flag) :=
  match name with
  | "generate" => some [.config, .input, .output, .templates, .implementation, .force, .protect, .yes]
  | "validate" => some [.config, .input]
  | "inspect" => some [.config, .input, .format]
  | "init" => some [.config, .force]
  | _ => none

/-- A command with its options. -/
def command? (name : String) (g : Given) : Option Command :=
  match name with
  | "generate" => some (.generate {
      spec := g.path? .input
      output := g.path? .output
      templates := g.path? .templates
      implementation := (g.lookup .implementation).bind Implementation.ofId?
      overwrite := g.has .force
      protectedPatterns := g.values .protect } (g.has .yes))
  | "validate" => some (.validate (g.path? .input))
  | "inspect" => some (.inspect (g.path? .input) (((g.lookup .format).bind OverviewForm.ofName?).getD .yaml))
  | "init" => some (.init (g.has .force))
  | _ => none

/-- What a command line asks for, if it is well formed. -/
def Invocation.ofArguments? (args : List String) : Option Invocation := do
  let (outer, rest) ← readOptions [.config, .version] [] args
  let standard : Path := ⟨Config.fileName⟩
  if outer.has .version then some ⟨standard, .version⟩
  else match rest with
    | [] => none
    | name :: rest => do
      let (inner, rest) ← readOptions (← commandFlags? name) [] rest
      if !rest.isEmpty then none
      else some ⟨(inner.path? .config <|> outer.path? .config).getD standard, ← command? name inner⟩

end ApiScaffold.CommandLine
