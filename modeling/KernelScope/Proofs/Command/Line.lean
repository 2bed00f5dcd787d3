import KernelScope.CommandLine.Run
import KernelScope.Proofs.Text.Words

/-!
# Commands typed on a line

What the program is asked to do by its arguments can also be typed in the shell: a word that calls
the command, and what the command is given behind it.  The words are a table here, and so are the
operands, apart from the arguments and the lines that are read.  Both ways make the same command,
however the line is spaced, and a line whose address cannot be read is kept as it is
(`Command.ofLine_agrees`).  The command that shows bytes can only be typed.
-/

set_option autoImplicit false

namespace KernelScope

open Text

/-! ## Words that call a command -/

namespace CommandLine

/-- The word by which the program knows a command. -/
def VerbName.word : VerbName → String
  | .samples => "samples"
  | .run => "run"
  | .source => "source"
  | .object => "obj"
  | .list => "ls"
  | .services => "ssdt"
  | .driver => "drv"
  | .symbol => "ln"
  | .shell => "shell"

/-- The other words by which the shell knows it. -/
def VerbName.aliases : VerbName → List String
  | .samples => ["list"]
  | .source => ["src"]
  | .object => ["object"]
  | .list => ["dir"]
  | .driver => ["drvobj"]
  | .run | .services | .symbol | .shell => []

/-- The words that call a command in the shell, which cannot be called there itself. -/
def VerbName.calls : VerbName → List String
  | .shell => []
  | name => name.word :: name.aliases

namespace Verb

/-- The name of the command. -/
def name : Verb → VerbName
  | .samples => .samples
  | .run .. => .run
  | .source _ => .source
  | .object _ => .object
  | .list _ => .list
  | .services => .services
  | .driver _ => .driver
  | .symbol _ => .symbol
  | .shell => .shell

/-- What the command is given, in order. -/
def operands : Verb → List String
  | .samples | .services | .shell => []
  | .run name arguments => name :: arguments
  | .source name | .driver name => [name]
  | .object path => [path]
  | .list path => path.toList
  | .symbol address => [address]

end Verb

theorem VerbName.isWord_of_mem_calls {name : VerbName} {call : String} (hcall : call ∈ name.calls) :
    IsWord call := by
  have hall : ∀ word ∈ name.calls, IsWord word := by
    cases name <;> decide
  exact hall call hcall

/-! ## Arguments of the program -/

theorem VerbName.ofWord?_word (name : VerbName) : ofWord? name.word = some name := by
  cases name <;> rfl

theorem VerbName.ofWord?_eq_some_iff (word : String) (name : VerbName) :
    ofWord? word = some name ↔ word = name.word := by
  constructor
  · intro hname
    unfold ofWord? at hname
    split at hname
    case h_10 => cases hname
    all_goals
      cases hname
      rfl
  · rintro rfl
    exact name.ofWord?_word

theorem VerbName.word_ne_help (name : VerbName) : name.word ≠ "help" := by
  cases name <;> decide

/-- No name is taken for an option. -/
theorem VerbName.itemOf_word (name : VerbName) : itemOf name.word = .name name.word := by
  cases name <;> rfl

namespace Verb

theorem verb?_operands (verb : Verb) : verb.name.verb? verb.operands = some verb := by
  cases verb with
  | list path => cases path <;> rfl
  | _ => rfl

/-- The program is asked for a command by its name and, behind two dashes, what it is given. -/
theorem ofArguments_operands (verb : Verb) :
    Request.ofArguments (verb.name.word :: "--" :: verb.operands) = .invoke ⟨.none, verb⟩ := by
  have hoperands : operandsOf verb.name.room? [] ("--" :: verb.operands) =
      .words verb.operands := by
    rw [operandsOf, if_pos rfl]
    rfl
  unfold Request.ofArguments requestBehind
  simp only [verb.name.itemOf_word, verb.name.ofWord?_word, if_neg verb.name.word_ne_help,
    requestOf, hoperands, verb.verb?_operands]
  rfl

end Verb

end CommandLine

/-! ## One command from both -/

namespace Command

open CommandLine

/-- The name of the command, if the program has it. -/
def name? : Command → Option VerbName
  | .samples => some .samples
  | .run .. => some .run
  | .source _ => some .source
  | .object _ => some .object
  | .list _ => some .list
  | .services => some .services
  | .driver _ => some .driver
  | .symbol _ => some .symbol
  | .dump .. | .help | .quit | .unknown _ => none

theorem name?_of_dumpOf? {arguments : List String} {command : Command}
    (h : dumpOf? arguments = some command) : command.name? = none := by
  unfold dumpOf? at h
  split at h
  · cases h
  · obtain ⟨address, -, rfl⟩ := Option.map_eq_some_iff.1 h
    rfl
  · obtain ⟨address, -, hrest⟩ := Option.bind_eq_some_iff.1 h
    obtain ⟨length, -, hdump⟩ := Option.bind_eq_some_iff.1 hrest
    cases hdump
    rfl

/-- No other word makes the command, whatever stands behind it. -/
theorem mem_calls_of_ofWords? {call : String} {arguments : List String} {command : Command}
    (h : ofWords? call arguments = some command) {name : VerbName}
    (hname : command.name? = some name) : call ∈ name.calls := by
  unfold ofWords? at h
  split at h
  -- some words make their command at once
  case h_1 | h_2 | h_8 | h_9 | h_10 =>
    cases h
    cases hname
    simp [VerbName.calls, VerbName.word, VerbName.aliases]
  -- others of the first argument
  case h_3 | h_4 | h_5 | h_6 | h_7 | h_11 | h_12 =>
    obtain ⟨argument, -, rfl⟩ := Option.map_eq_some_iff.1 h
    cases hname
    simp [VerbName.calls, VerbName.word, VerbName.aliases]
  -- `ln` and `db` make no command of an address that cannot be read
  case h_13 =>
    obtain ⟨text, -, hsymbol⟩ := Option.bind_eq_some_iff.1 h
    obtain ⟨address, -, rfl⟩ := Option.map_eq_some_iff.1 hsymbol
    cases hname
    exact List.mem_cons_self
  case h_14 =>
    rw [name?_of_dumpOf? h] at hname
    cases hname
  -- the program has no help and no end of its own
  case h_15 | h_16 | h_17 | h_18 | h_19 =>
    cases h
    cases hname
  -- any other word makes none
  case h_20 => cases h

end Command

namespace CommandLine.Verb

/-- A command of the program asks for a command: the same, with the same operands, an address among
them read. -/
inductive Asks : Verb → Command → Prop where
  | samples : Asks .samples .samples
  | run (name : String) (arguments : List String) : Asks (.run name arguments) (.run name arguments)
  | source (name : String) : Asks (.source name) (.source name)
  | object (path : String) : Asks (.object path) (.object path)
  | list (path : Option String) : Asks (.list path) (.list path)
  | services : Asks .services .services
  | driver (name : String) : Asks (.driver name) (.driver name)
  | symbol {text : String} {address : Address} (haddress : Address.ofText text = .ok address) :
    Asks (.symbol text) (.symbol address)

variable {verb : Verb} {command : Command} {call : String}

theorem command?_eq_ok_iff : verb.command? = .ok (some command) ↔ verb.Asks command := by
  constructor
  · intro hcommand
    cases verb with
    | symbol text =>
      cases haddress : Address.ofText text with
      | error fault => simp [command?, haddress] at hcommand
      | ok address =>
        simp only [command?, haddress, Except.ok.injEq, Option.some.injEq] at hcommand
        exact hcommand ▸ .symbol haddress
    | shell => cases hcommand
    | _ =>
      cases hcommand
      constructor
  · intro hasks
    cases hasks with
    | symbol haddress => simp only [command?, haddress]
    | _ => rfl

theorem command?_of_refused {text : String} {fault : NumberError}
    (hfault : Address.ofText text = .error fault) :
    (symbol text).command? = .error (.badAddress text fault) := by
  simp only [command?, hfault]

/-- Only an address can be refused. -/
theorem exists_command_or_refused (hverb : verb ≠ .shell) :
    (∃ command, verb.command? = .ok (some command)) ∨
      ∃ text fault, verb = .symbol text ∧ Address.ofText text = .error fault := by
  cases verb with
  | symbol text =>
    cases haddress : Address.ofText text with
    | error fault => exact .inr ⟨text, fault, rfl, haddress⟩
    | ok address => exact .inl ⟨_, command?_eq_ok_iff.2 (.symbol haddress)⟩
  | shell => exact absurd rfl hverb
  | _ => exact .inl ⟨_, rfl⟩

theorem Asks.name? (h : verb.Asks command) : command.name? = some verb.name := by
  cases h <;> rfl

/-- A word and what the command is given make the command exactly if the word calls it. -/
theorem Asks.ofWords?_iff (h : verb.Asks command) :
    Command.ofWords? call verb.operands = some command ↔ call ∈ verb.name.calls := by
  refine ⟨fun hmade => Command.mem_calls_of_ofWords? hmade h.name?, fun hcall => ?_⟩
  cases h with
  | samples | source | object | driver =>
    simp only [name, VerbName.calls, VerbName.word, VerbName.aliases, List.mem_cons,
      List.not_mem_nil, or_false] at hcall
    rcases hcall with rfl | rfl
    · rfl
    · rfl
  | list path =>
    simp only [name, VerbName.calls, VerbName.word, VerbName.aliases, List.mem_cons,
      List.not_mem_nil, or_false] at hcall
    cases path with
    | none | some =>
      rcases hcall with rfl | rfl
      · rfl
      · rfl
  | run | services =>
    cases List.mem_singleton.1 hcall
    rfl
  | symbol haddress =>
    cases List.mem_singleton.1 hcall
    simp [Command.ofWords?, operands, haddress, Except.toOption, name, VerbName.word]

theorem ofWords?_of_refused {text : String} {fault : NumberError}
    (hfault : Address.ofText text = .error fault) (hcall : call ∈ (symbol text).name.calls) :
    Command.ofWords? call (symbol text).operands = none := by
  cases List.mem_singleton.1 hcall
  simp [Command.ofWords?, operands, hfault, Except.toOption, name, VerbName.word]

end CommandLine.Verb

/-! ## Lines -/

namespace Command

open CommandLine

theorem isWord_of_ofText {text : String} {address : Address} (hplain : NoBlank text)
    (haddress : Address.ofText text = .ok address) : IsWord text := by
  refine ⟨fun hempty => ?_, hplain⟩
  have hrefused : Address.ofText "" = .error .empty := rfl
  rw [hempty, hrefused] at haddress
  cases haddress

section Lines

variable {lead body trail : String} (hlead : AllBlank lead) (htrail : AllBlank trail)

include hlead htrail

/-- A line that spells words is the command that they make. -/
theorem ofLine_of_spaced {call : String} {arguments : List String}
    (hnames : ∀ name ∈ call :: arguments, IsWord name) (hbody : Spaced (call :: arguments) body) :
    ofLine (lead ++ body ++ trail) = (ofWords? call arguments).getD (.unknown body) := by
  rw [ofLine, words_of_spaced hbody hnames hlead htrail, trim_of_spaced hbody hnames hlead htrail]

/-- A line that spells a command of the program is that command, and if its address is refused, it
is kept as it is without the blanks around it. -/
theorem ofLine_of_operands {verb : Verb} {call : String} (hcall : call ∈ verb.name.calls)
    (hoperands : ∀ operand ∈ verb.operands, IsWord operand)
    (hbody : Spaced (call :: verb.operands) body) :
    (∀ command, verb.command? = .ok (some command) → ofLine (lead ++ body ++ trail) = command) ∧
      ∀ text fault, verb = .symbol text → Address.ofText text = .error fault →
        verb.command? = .error (.badAddress text fault) ∧
          ofLine (lead ++ body ++ trail) = .unknown body ∧ trim (lead ++ body ++ trail) = body := by
  have hnames : ∀ name ∈ call :: verb.operands, IsWord name :=
    List.forall_mem_cons.2 ⟨VerbName.isWord_of_mem_calls hcall, hoperands⟩
  have hline := ofLine_of_spaced hlead htrail hnames hbody
  constructor
  · intro command hcommand
    rw [hline, (Verb.command?_eq_ok_iff.1 hcommand).ofWords?_iff.2 hcall]
    rfl
  · rintro text fault rfl hfault
    rw [Verb.ofWords?_of_refused hfault hcall] at hline
    exact ⟨Verb.command?_of_refused hfault, hline, trim_of_spaced hbody hnames hlead htrail⟩

/-- A line that spells `db`, an address and perhaps a length asks for bytes. -/
theorem ofLine_of_dump {first : String} {address : Address} (hfirst : NoBlank first)
    (haddress : Address.ofText first = .ok address) :
    (Spaced ["db", first] body → ofLine (lead ++ body ++ trail) = .dump address 0x40) ∧
      ∀ (second : String) (length : UInt64), NoBlank second → Address.ofText second = .ok length →
        Spaced ["db", first, second] body →
          ofLine (lead ++ body ++ trail) = .dump address length := by
  have hcall : IsWord "db" := by decide
  have hfirstWord := isWord_of_ofText hfirst haddress
  constructor
  · intro hbody
    have hnames : ∀ name ∈ ["db", first], IsWord name := by
      simp only [List.forall_mem_cons]
      exact ⟨hcall, hfirstWord, List.forall_mem_nil _⟩
    rw [ofLine_of_spaced hlead htrail hnames hbody]
    simp only [ofWords?, dumpOf?, haddress]
    rfl
  · intro second length hsecond hlength hbody
    have hnames : ∀ name ∈ ["db", first, second], IsWord name := by
      simp only [List.forall_mem_cons]
      exact ⟨hcall, hfirstWord, isWord_of_ofText hsecond hlength, List.forall_mem_nil _⟩
    rw [ofLine_of_spaced hlead htrail hnames hbody]
    simp only [ofWords?, dumpOf?, haddress, hlength]
    rfl

end Lines

/-- A line that is a command of the program begins with a word that calls it. -/
theorem exists_call_of_ofLine {verb : Verb} {line : String}
    (hcommand : verb.command? = .ok (some (ofLine line))) :
    ∃ call ∈ verb.name.calls, (words line).head? = some call := by
  have hname := (Verb.command?_eq_ok_iff.1 hcommand).name?
  rcases hwords : words line with _ | ⟨call, arguments⟩
  · rw [ofLine, hwords] at hname
    cases hname
  · have hline : ofLine line = (ofWords? call arguments).getD (.unknown (trim line)) := by
      rw [ofLine, hwords]
    refine ⟨call, ?_, rfl⟩
    rw [hline] at hname
    rcases hmade : ofWords? call arguments with _ | command
    · rw [hmade] at hname
      cases hname
    · rw [hmade, Option.getD_some] at hname
      exact mem_calls_of_ofWords? hmade hname

/-- A line and the arguments of the program agree.  The program takes each of its commands by one
word, with what the command is given behind it, and every one but the shell asks for a command with
the same operands, or is refused for its address.  A command whose operands are words can also be
typed, with that word or any alias of it and with any blanks; the line is then the command that the
arguments make, or, if that is refused for its address, a line that is kept as it is without the
blanks around it.  No other word at the beginning of a line calls the command.  The command that
shows bytes is typed with its address and perhaps the number of bytes. -/
theorem ofLine_agrees {lead trail : String} (hlead : AllBlank lead) (htrail : AllBlank trail) :
    -- the arguments
    (∀ verb : Verb,
      (∀ word, VerbName.ofWord? word = some verb.name ↔ word = verb.name.word) ∧
      Request.ofArguments (verb.name.word :: "--" :: verb.operands) = .invoke ⟨.none, verb⟩ ∧
      (∀ command, verb.command? = .ok (some command) ↔ verb.Asks command) ∧
      (verb ≠ .shell → (∃ command, verb.command? = .ok (some command)) ∨
        ∃ text fault, verb = .symbol text ∧ Address.ofText text = .error fault)) ∧
    -- the line
    (∀ (verb : Verb) (call body : String), call ∈ verb.name.calls →
      (∀ operand ∈ verb.operands, IsWord operand) → Spaced (call :: verb.operands) body →
      (∀ command, verb.command? = .ok (some command) → ofLine (lead ++ body ++ trail) = command) ∧
      ∀ text fault, verb = .symbol text → Address.ofText text = .error fault →
        verb.command? = .error (.badAddress text fault) ∧
          ofLine (lead ++ body ++ trail) = .unknown body ∧ trim (lead ++ body ++ trail) = body) ∧
    -- no other line
    (∀ (verb : Verb) (line : String), verb.command? = .ok (some (ofLine line)) →
      ∃ call ∈ verb.name.calls, (words line).head? = some call) ∧
    -- bytes
    ∀ (first body : String) (address : Address), NoBlank first →
      Address.ofText first = .ok address →
      (Spaced ["db", first] body → ofLine (lead ++ body ++ trail) = .dump address 0x40) ∧
      ∀ (second : String) (length : UInt64), NoBlank second → Address.ofText second = .ok length →
        Spaced ["db", first, second] body →
          ofLine (lead ++ body ++ trail) = .dump address length := by
  refine ⟨?_, ?_, ?_, ?_⟩
  · intro verb
    exact ⟨fun word => VerbName.ofWord?_eq_some_iff word verb.name, verb.ofArguments_operands,
      fun command => Verb.command?_eq_ok_iff, Verb.exists_command_or_refused⟩
  · intro verb call body hcall hoperands hbody
    exact ofLine_of_operands hlead htrail hcall hoperands hbody
  · intro verb line hcommand
    exact exists_call_of_ofLine hcommand
  · intro first body address hfirst haddress
    exact ofLine_of_dump hlead htrail hfirst haddress

/-- A sample is shown by the arguments, and by its second name on a line with two blanks before it
and a line feed behind it.  The address behind `ln` has too many digits, and 16 bytes are shown. -/
theorem ofLine_agrees_small :
    Request.ofArguments ["source", "--", "handles"] = .invoke ⟨.none, .source "handles"⟩ ∧
      ofLine ("  " ++ "src\t handles" ++ "\n") = .source "handles" ∧
      ofLine ("  " ++ "ln 0x10000000000000000" ++ "\n") = .unknown "ln 0x10000000000000000" ∧
      ofLine ("  " ++ "db 0x1000 16" ++ "\n") = .dump 0x1000 16 := by
  have hlead : AllBlank "  " := by decide
  have htrail : AllBlank "\n" := by decide
  have hgap : AllBlank " " := by decide
  have htab : AllBlank "\t " := by decide
  have hsource : Spaced ["src", "handles"] "src\t handles" :=
    .cons htab (by decide) (.single "handles")
  have hsymbol : Spaced ["ln", "0x10000000000000000"] "ln 0x10000000000000000" :=
    .cons hgap (by decide) (.single "0x10000000000000000")
  have hdump : Spaced ["db", "0x1000", "16"] "db 0x1000 16" :=
    .cons hgap (by decide) (.cons hgap (by decide) (.single "16"))
  obtain ⟨harguments, hlines, -, hdumps⟩ := ofLine_agrees hlead htrail
  refine ⟨?_, ?_, ?_, ?_⟩
  · exact (harguments (.source "handles")).2.1
  · exact (hlines (.source "handles") "src" _ (by decide) (by decide) hsource).1 _ rfl
  · have hline := hlines (.symbol "0x10000000000000000") "ln" _ (by decide) (by decide) hsymbol
    exact (hline.2 _ .tooLarge rfl rfl).2.1
  · exact (hdumps "0x1000" _ 0x1000 (by decide) rfl).2 "16" 16 (by decide) rfl hdump

end Command

end KernelScope
