import ServerLink.Rehearsal.Program

/-!
# Command lines for rehearsals

A command line is a run of commands with `;`, `&&` or `||` between them.  It is read into what a
program does.  Words may be quoted, and `$@`, `$$` and `$1` to `$9` stand for what they usually do;
a command may send its output elsewhere.

* `Shell.Token`, `Shell.tokens` — a command line cut into words and signs.
* `Shell.Command`, `Shell.commands` — its commands, each with what joins it to the one before.
* `Shell.program` — what a command line does.

Loops are taken to go on forever.
-/

namespace ServerLink.Rehearsal.Shell

/-! ## Words and signs -/

/-- A piece of a word. -/
inductive Piece where
  | char (c : Char)
  | arguments
  | argument (n : Nat)
  | self

/-- A word or a sign. -/
inductive Token where
  | word (pieces : List Piece)
  /-- The end of a command, with what joins the next one to it. -/
  | join (sign : List Char)
  /-- Output of a stream goes into a file, or where another stream goes. -/
  | output (stream : Char) (same : Bool)
  | input

/-- A word that has begun joins the tokens. -/
def close (word : Option (List Piece)) (rest : List Token) : List Token :=
  match word with
  | some pieces => .word pieces :: rest
  | none => rest

/-- A word that has begun with one more piece. -/
def grow (word : Option (List Piece)) (p : Piece) : Option (List Piece) :=
  some (word.getD [] ++ [p])

/-- What a dollar sign and the character after it stand for. -/
def meaning? (c : Char) : Option Piece :=
  if c = '@' || c = '*' then some .arguments
  else if c = '$' then some .self
  else if '1' ≤ c && c ≤ '9' then some (.argument (c.toNat - '0'.toNat))
  else none

/-- The stream before a sign for output, when a lone digit names it. -/
def streamOf (word : Option (List Piece)) : Option Char × Option (List Piece) :=
  match word with
  | some [.char c] => if c.isDigit then (some c, none) else (none, word)
  | _ => (none, word)

/-- The token of a sign for output, after the word before it. -/
def outputToken (word : Option (List Piece)) (same : Bool) (rest : List Token) : List Token :=
  let (stream, word) := streamOf word
  close word (.output (stream.getD '1') same :: rest)

mutual

/-- Cuts what follows a single quote. -/
def cutSingle (word : Option (List Piece)) : List Char → List Token
  | [] => close word []
  | '\'' :: rest => cut word rest
  | c :: rest => cutSingle (grow word (.char c)) rest
termination_by cs => cs.length

/-- Cuts what follows a double quote. -/
def cutDouble (word : Option (List Piece)) : List Char → List Token
  | [] => close word []
  | '"' :: rest => cut word rest
  | '\\' :: '"' :: rest => cutDouble (grow word (.char '"')) rest
  | '\\' :: '\\' :: rest => cutDouble (grow word (.char '\\')) rest
  | '\\' :: '$' :: rest => cutDouble (grow word (.char '$')) rest
  | '$' :: d :: rest =>
    match meaning? d with
    | some p => cutDouble (grow word p) rest
    | none => cutDouble (grow word (.char '$')) (d :: rest)
  | c :: rest => cutDouble (grow word (.char c)) rest
termination_by cs => cs.length

/-- Cuts a command line into words and signs, after a word that may have begun. -/
def cut (word : Option (List Piece)) : List Char → List Token
  | [] => close word []
  | '\'' :: rest => cutSingle (some (word.getD [])) rest
  | '"' :: rest => cutDouble (some (word.getD [])) rest
  | '\\' :: d :: rest => cut (grow word (.char d)) rest
  | '$' :: d :: rest =>
    match meaning? d with
    | some p => cut (grow word p) rest
    | none => cut (grow word (.char '$')) (d :: rest)
  | '&' :: '&' :: rest => close word (.join ['&', '&'] :: cut none rest)
  | '|' :: '|' :: rest => close word (.join ['|', '|'] :: cut none rest)
  | '>' :: '&' :: rest => outputToken word true (cut none rest)
  | '>' :: '>' :: rest => outputToken word false (cut none rest)
  | '>' :: rest => outputToken word false (cut none rest)
  | '<' :: rest => close word (.input :: cut none rest)
  | ';' :: rest => close word (.join [';'] :: cut none rest)
  | '\n' :: rest => close word (.join [';'] :: cut none rest)
  | ' ' :: rest => close word (cut none rest)
  | '\t' :: rest => close word (cut none rest)
  | c :: rest => cut (grow word (.char c)) rest
termination_by cs => cs.length

end

/-- A command line as words and signs. -/
def tokens (line : String) : List Token := cut none line.toList

/-! ## Commands -/

/-- Where output goes. -/
inductive Target where
  | output
  | errors
  | nowhere
deriving DecidableEq

/-- A command: what joins it to the one before, its words, and where its streams go. -/
structure Command where
  join : List Char
  words : List (List Piece)
  output : Target
  errors : Target
  input : Option (List Piece)

/-- A command without words. -/
def Command.blank (join : List Char) : Command := ⟨join, [], .output, .errors, none⟩

/-- The target of a stream. -/
def Command.target (c : Command) (stream : List Piece) : Target :=
  match stream with
  | [.char '1'] => c.output
  | [.char '2'] => c.errors
  | _ => .nowhere

/-- Sends a stream elsewhere. -/
def Command.redirect (c : Command) (stream : Char) (t : Target) : Command :=
  if stream = '2' then { c with errors := t } else { c with output := t }

/-- The commands of tokens, with the one that has begun in front. -/
def gather (c : Command) : List Token → List Command
  | [] => [c]
  | .join sign :: rest => c :: gather (.blank sign) rest
  | .output stream true :: .word w :: rest => gather (c.redirect stream (c.target w)) rest
  | .output stream false :: .word _ :: rest => gather (c.redirect stream .nowhere) rest
  | .input :: .word w :: rest => gather { c with input := some w } rest
  | .word w :: rest => gather { c with words := c.words ++ [w] } rest
  | _ :: rest => gather c rest

/-- The commands of a command line. -/
def commands (line : String) : List Command :=
  (gather (.blank [';']) (tokens line)).filter fun c => !c.words.isEmpty

/-! ## What commands do -/

/-- What a command line sees: its arguments, its directory and the files around it. -/
structure Setting where
  arguments : List Bytes
  directory : Path
  files : Surroundings

/-- What stands for the number of the shell itself. -/
def selfMark : Bytes := Utf8.ofString "$$"

/-- A word as words: `$@` stands for one word for each argument. -/
def expand (s : Setting) (pieces : List Piece) : List Bytes :=
  match pieces with
  | [.arguments] => s.arguments
  | _ => [pieces.flatMap fun
    | .char c => Utf8.encodeChar c
    | .arguments => [0x20].intercalate s.arguments
    | .argument n => (s.arguments[n - 1]?).getD []
    | .self => selfMark]

/-- The value of an octal digit. -/
def octal? (b : UInt8) : Option Nat := if 0x30 ≤ b && b ≤ 0x37 then some (b.toNat - 0x30) else none

/-- The byte of up to three octal digits, and what follows them. -/
def octalByte (limit value : Nat) : Bytes → Nat × Bytes
  | [] => (value, [])
  | b :: rest =>
    match limit, octal? b with
    | limit + 1, some d => octalByte limit (value * 8 + d) rest
    | _, _ => (value, b :: rest)

/-- The byte that an escape with a letter stands for. -/
def letterEscape? (b : UInt8) : Option UInt8 :=
  List.lookup b [(0x6E, 0x0A), (0x74, 0x09), (0x72, 0x0D), (0x5C, 0x5C), (0x61, 0x07), (0x62, 0x08),
    (0x66, 0x0C), (0x76, 0x0B)]

/-- A form filled in once: the text, the arguments left over, and whether any was asked for.  `fuel`
bounds the length of the form. -/
def fill : (fuel : Nat) → List Bytes → (asked : Bool) → Bytes → Bytes × List Bytes × Bool
  | fuel + 1, arguments, asked, 0x5C :: b :: rest =>
    match letterEscape? b, octal? b with
    | some e, _ =>
      let (text, left, asked) := fill fuel arguments asked rest
      (e :: text, left, asked)
    | none, some _ =>
      let (value, rest) := octalByte 3 0 (b :: rest)
      let (text, left, asked) := fill fuel arguments asked rest
      (value.toUInt8 :: text, left, asked)
    | none, none =>
      let (text, left, asked) := fill fuel arguments asked rest
      (0x5C :: b :: text, left, asked)
  | fuel + 1, arguments, asked, 0x25 :: b :: rest =>
    if b = 0x25 then
      let (text, left, asked) := fill fuel arguments asked rest
      (0x25 :: text, left, asked)
    else
      let (text, left, asked) := fill fuel (arguments.drop 1) true rest
      (arguments.headD [] ++ text, left, asked)
  | fuel + 1, arguments, asked, b :: rest =>
    let (text, left, asked) := fill fuel arguments asked rest
    (b :: text, left, asked)
  | _, arguments, asked, _ => ([], arguments, asked)

/-- A form filled in until no argument is left. -/
def fillAll (form : Bytes) (fuel : Nat) (arguments : List Bytes) : Bytes :=
  match fuel with
  | 0 => []
  | fuel + 1 =>
    let (text, left, asked) := fill form.length arguments false form
    if asked && !left.isEmpty then text ++ fillAll form fuel left else text

/-- Whether a word sets a variable. -/
def isSetting (word : Bytes) : Bool :=
  match (Utf8.toStringLossy word).toList with
  | c :: rest =>
    let name := c :: rest.takeWhile (· != '=')
    rest.contains '=' && !c.isDigit && name.all fun c => c.isAlphanum || c = '_'
  | [] => false

/-- What a command without its streams does, with its status.  Variables are set to no effect. -/
def simple (s : Setting) (words : List Bytes) : List Act × Nat :=
  match words with
  | [] => ([], 0)
  | name :: arguments =>
    match Utf8.toStringLossy name with
    | "exit" =>
      let code := (arguments.head?.bind Utf8.toString?).bind fun t =>
        Decimal.natBelow? 65536 t.toList
      ([.leave (some (code.getD 0 % 256))], 0)
    | "kill" => if arguments.contains selfMark then ([.leave none], 0) else ([], 1)
    | "printf" =>
      ([.say (fillAll (arguments.headD []) (arguments.length + 1) (arguments.drop 1))], 0)
    | "echo" => Program.echo arguments
    | "cat" => Program.cat s.files arguments
    | "head" => Program.head s.files arguments
    | "sleep" => Program.sleep arguments
    | "pwd" => ([.say (s.directory.bytes ++ [0x0A])], 0)
    | "true" | ":" | "trap" => ([], 0)
    | "false" => ([], 1)
    | "while" | "until" => ([.linger], 0)
    | other =>
      if isSetting name then ([], 0)
      else ([Program.complains ("sh: 1: " ++ other ++ ": not found\n")], 127)

/-- An act with its output sent elsewhere. -/
def redirected (c : Command) : Act → List Act
  | .say bytes =>
    match c.output with
    | .output => [.say bytes]
    | .errors => [.complain bytes]
    | .nowhere => []
  | .complain bytes =>
    match c.errors with
    | .output => [.say bytes]
    | .errors => [.complain bytes]
    | .nowhere => []
  | .copy => if c.output = .output then [.copy] else [.drain]
  | act => [act]

/-- What a command does, with its status. -/
def Command.acts (s : Setting) (c : Command) : List Act × Nat :=
  let words := c.words.flatMap (expand s)
  let (acts, status) := simple s (words ++ (c.input.map (expand s)).getD [])
  (acts.flatMap (redirected c), status)

/-- What commands do after one with a status.  A command joined by `&&` is passed over after a
failure, one joined by `||` after a success. -/
def run (s : Setting) (status : Nat) : List Command → Program
  | [] => [.leave (some status)]
  | c :: rest =>
    if (c.join = ['&', '&'] && status != 0) || (c.join = ['|', '|'] && status = 0) then
      run s status rest
    else
      let (acts, status) := c.acts s
      acts ++ run s status rest

/-- What a command line does. -/
def program (line : String) (s : Setting) : Program := run s 0 (commands line)

/-- What a program does that is run by itself. -/
def standalone (s : Setting) (name : Bytes) : Program :=
  if name = Utf8.ofString "sh" then
    match s.arguments with
    | [] => [.drain, .leave (some 127)]
    | option :: line :: rest =>
      if option = Utf8.ofString "-c" then
        program (Utf8.toStringLossy line) { s with arguments := rest.drop 1 }
      else [.leave (some 2)]
    | _ => [.leave (some 2)]
  else
    let (acts, status) := simple s (name :: s.arguments)
    acts ++ [.leave (some status)]

/-- The names of the programs that can be run by themselves. -/
def programNames : List String :=
  ["cat", "echo", "false", "head", "printf", "pwd", "sh", "sleep", "true"]

end ServerLink.Rehearsal.Shell
