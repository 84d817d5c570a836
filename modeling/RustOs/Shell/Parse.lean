import RustOs.Lib.Text
import RustOs.Vfs.Path
import RustOs.Tick

/-!
# The shell's command parser

`shell.rs`: `parse_command` decodes a line as UTF-8, splits it into words at whitespace and reads
a command from its first words. `parse_next_word` and `parse_word` read one argument with the
`FromStr` of its type, and words left over are an error.

A command has a text, its words joined by spaces (`Command.toWords`, `Command.render`). Parsing is
the inverse of it: the text of a command whose words are words parses back to the command
(`parseCommand_render`), and every command `parse_command` returns is such a command
(`wellFormed_of_parseCommand`).
-/

namespace RustOs.Shell

open Text Vfs

deriving instance DecidableEq for FilePathComponent
deriving instance DecidableEq for FilePath

/-- `core::str::FromStr` for the types of the commands' arguments. -/
class FromStr (α : Type) where
  fromStr : String → Option α

instance : FromStr UInt32 := ⟨fun s => (fromStrRadix10 (2 ^ 32) s.toList).map Nat.toUInt32⟩

instance : FromStr UInt64 := ⟨fun s => (fromStrRadix10 (2 ^ 64) s.toList).map Nat.toUInt64⟩

instance : FromStr String := ⟨some⟩

instance : FromStr FilePath := ⟨fun s => (FilePath.parse s).join⟩

inductive VirtIOBlockCommand
  | list
  | read (deviceId : UInt64) (sector : UInt64)
  | write (deviceId : UInt64) (sector : UInt64) (data : UInt64)
  | id (deviceId : UInt64)
  deriving DecidableEq

inductive MountTarget
  | device (deviceId : UInt64)
  | sysfs
  deriving DecidableEq

structure ExecCommand where
  path : FilePath
  args : List String
  numProcesses : UInt64
  deriving DecidableEq

inductive PrimeCommand
  | sync (nthPrime : UInt64)
  | async (nthPrime : UInt64) (numProcesses : UInt64)
  deriving DecidableEq

inductive Command
  | test
  | exit
  | backtrace
  | listPCI
  | listVirtio
  | bootInfo
  | printACPI
  | pageTable
  | rng (numBytes : UInt32)
  | virtIOBlock (command : VirtIOBlockCommand)
  | mount (target : MountTarget)
  | unmount
  | ls (path : FilePath)
  | cat (path : FilePath)
  | exec (command : ExecCommand)
  | writeFramebuffer (content : String)
  | writeToFile (path : FilePath) (content : String)
  | fatBIOS (deviceId : UInt64)
  | timer (milliseconds : Milliseconds)
  | sleep (milliseconds : Milliseconds)
  | prime (command : PrimeCommand)
  deriving DecidableEq

section Parse

variable {α : Type} [FromStr α]

/-- `parse_word`: the error it prints is not modelled. -/
def parseWord (word : String) : Option α := FromStr.fromStr word

/-- `parse_next_word` on the words still to read: the value and the words after it. -/
def parseNextWord : List String → Option (α × List String)
  | [] => none
  | word :: words => (parseWord word).map fun val => (val, words)

theorem parseNextWord_eq_some {ws rest : List String} {val : α} :
    parseNextWord ws = some (val, rest) ↔ ∃ word, ws = word :: rest ∧ parseWord word = some val := by
  cases ws with
  | nil => simp [parseNextWord]
  | cons word words => simp [parseNextWord, eq_comm, and_comm]

end Parse

/-- The `match` on the first word in `parse_command`: the command and the words it leaves. `exec`
and `write-framebuffer` take every word that is left. -/
def parseCommandWords : List String → Option (Command × List String)
  | [] => none
  | first :: words =>
    match first with
    | "test" => some (.test, words)
    | "exit" => some (.exit, words)
    | "backtrace" => some (.backtrace, words)
    | "list-pci" => some (.listPCI, words)
    | "list-virtio" => some (.listVirtio, words)
    | "boot-info" => some (.bootInfo, words)
    | "print-acpi" => some (.printACPI, words)
    | "page-table" => some (.pageTable, words)
    | "rng" => do
        let (numBytes, words) ← parseNextWord words
        some (.rng numBytes, words)
    | "block" =>
        match words with
        | "list" :: words => some (.virtIOBlock .list, words)
        | "read" :: words => do
            let (deviceId, words) ← parseNextWord words
            let (sector, words) ← parseNextWord words
            some (.virtIOBlock (.read deviceId sector), words)
        | "write" :: words => do
            let (deviceId, words) ← parseNextWord words
            let (sector, words) ← parseNextWord words
            let (data, words) ← parseNextWord words
            some (.virtIOBlock (.write deviceId sector data), words)
        | "id" :: words => do
            let (deviceId, words) ← parseNextWord words
            some (.virtIOBlock (.id deviceId), words)
        | _ => none
    | "mount" =>
        match words with
        | "sysfs" :: words => some (.mount .sysfs, words)
        | deviceIdStr :: words => do
            let deviceId ← parseWord deviceIdStr
            some (.mount (.device deviceId), words)
        | [] => none
    | "umount" => some (.unmount, words)
    | "ls" => do
        let (path, words) ← parseNextWord words
        some (.ls path, words)
    | "cat" => do
        let (path, words) ← parseNextWord words
        some (.cat path, words)
    | "exec" => do
        let (numProcesses, words) ← parseNextWord words
        let (path, words) ← parseNextWord words
        some (.exec ⟨path, words, numProcesses⟩, [])
    | "write-framebuffer" => some (.writeFramebuffer (String.join (words.map (· ++ " "))), [])
    | "write-to-file" => do
        let (path, words) ← parseNextWord words
        let (content, words) ← parseNextWord words
        some (.writeToFile path content, words)
    | "fat" =>
        match words with
        | "bios" :: words => do
            let (deviceId, words) ← parseNextWord words
            some (.fatBIOS deviceId, words)
        | _ => none
    | "timer" => do
        let (milliseconds, words) ← parseNextWord words
        some (.timer ⟨milliseconds⟩, words)
    | "sleep" => do
        let (milliseconds, words) ← parseNextWord words
        some (.sleep ⟨milliseconds⟩, words)
    | "prime" => do
        let sync ← match words with
          | "sync" :: _ => some true
          | "async" :: _ => some false
          | _ => none
        let (nthPrime, words) ← parseNextWord words.tail
        if sync then some (.prime (.sync nthPrime), words)
        else do
          let (numProcesses, words) ← parseNextWord words
          some (.prime (.async nthPrime numProcesses), words)
    | _ => none

/-- `parse_command`: a line that is not UTF-8, that has no command, or that has words after its
command is refused. -/
def parseCommand (buffer : ByteArray) : Option Command :=
  match String.fromUTF8? buffer with
  | none => none
  | some commandStr =>
    match parseCommandWords (splitWhitespace commandStr) with
    | none => none
    | some (command, rest) => if rest.isEmpty then some command else none

/-! ## The text of a command -/

/-- The words of a command as the shell reads them back: numbers in decimal, paths by `as_string`,
the content of `write-framebuffer` split at whitespace. -/
def Command.toWords : Command → List String
  | .test => ["test"]
  | .exit => ["exit"]
  | .backtrace => ["backtrace"]
  | .listPCI => ["list-pci"]
  | .listVirtio => ["list-virtio"]
  | .bootInfo => ["boot-info"]
  | .printACPI => ["print-acpi"]
  | .pageTable => ["page-table"]
  | .rng numBytes => ["rng", numBytes.toNat.repr]
  | .virtIOBlock .list => ["block", "list"]
  | .virtIOBlock (.read deviceId sector) => ["block", "read", deviceId.toNat.repr, sector.toNat.repr]
  | .virtIOBlock (.write deviceId sector data) =>
      ["block", "write", deviceId.toNat.repr, sector.toNat.repr, data.toNat.repr]
  | .virtIOBlock (.id deviceId) => ["block", "id", deviceId.toNat.repr]
  | .mount (.device deviceId) => ["mount", deviceId.toNat.repr]
  | .mount .sysfs => ["mount", "sysfs"]
  | .unmount => ["umount"]
  | .ls path => ["ls", path.asString]
  | .cat path => ["cat", path.asString]
  | .exec ⟨path, args, numProcesses⟩ => ["exec", numProcesses.toNat.repr, path.asString] ++ args
  | .writeFramebuffer content => "write-framebuffer" :: splitWhitespace content
  | .writeToFile path content => ["write-to-file", path.asString, content]
  | .fatBIOS deviceId => ["fat", "bios", deviceId.toNat.repr]
  | .timer milliseconds => ["timer", milliseconds.val.toNat.repr]
  | .sleep milliseconds => ["sleep", milliseconds.val.toNat.repr]
  | .prime (.sync nthPrime) => ["prime", "sync", nthPrime.toNat.repr]
  | .prime (.async nthPrime numProcesses) =>
      ["prime", "async", nthPrime.toNat.repr, numProcesses.toNat.repr]

def Command.render (c : Command) : String := " ".intercalate c.toWords

def Command.normal : Command → Bool
  | .writeFramebuffer content => String.join ((splitWhitespace content).map (· ++ " ")) == content
  | _ => true

def Command.WellFormed (c : Command) : Prop := (∀ w ∈ c.toWords, IsWord w) ∧ c.normal = true

instance : DecidablePred Command.WellFormed := fun c =>
  inferInstanceAs (Decidable ((∀ w ∈ c.toWords, IsWord w) ∧ c.normal = true))

/-! ## Reading back numbers and paths -/

theorem isWord_repr (n : Nat) : IsWord n.repr := by
  refine ⟨by rw [Nat.toList_repr]; exact Nat.toDigits_ne_nil, fun c hc => ?_⟩
  rw [Nat.toList_repr] at hc
  exact isWhitespace_of_isDigit (Nat.isDigit_of_mem_toDigits (by decide) (by decide) hc)

theorem repr_ne_sysfs (n : Nat) : n.repr ≠ "sysfs" := by
  intro same
  have first : 's' ∈ Nat.toDigits 10 n := by
    rw [← Nat.toList_repr, same]
    decide
  exact absurd (Nat.isDigit_of_mem_toDigits (by decide) (by decide) first) (by decide)

theorem fromStr_uint32 (n : UInt32) : FromStr.fromStr n.toNat.repr = some n := by
  change (fromStrRadix10 (2 ^ 32) n.toNat.repr.toList).map Nat.toUInt32 = some n
  rw [Nat.toList_repr, fromStrRadix10_toDigits n.toNat_lt, Option.map_some, Nat.toUInt32_eq,
    UInt32.ofNat_toNat]

theorem fromStr_uint64 (n : UInt64) : FromStr.fromStr n.toNat.repr = some n := by
  change (fromStrRadix10 (2 ^ 64) n.toNat.repr.toList).map Nat.toUInt64 = some n
  rw [Nat.toList_repr, fromStrRadix10_toDigits n.toNat_lt, Option.map_some, Nat.toUInt64_eq,
    UInt64.ofNat_toNat]

theorem FilePath.named_of_isWord {p : FilePath} (h : IsWord p.asString) :
    p.absolute = true ∨ p.components ≠ [] := by
  by_contra unnamed
  simp only [not_or, Bool.not_eq_true, ne_eq, not_not] at unnamed
  exact h.1 (by simp [FilePath.asString, unnamed.1, unnamed.2])

theorem fromStr_asString {p : FilePath} (h : IsWord p.asString) :
    FromStr.fromStr p.asString = some p := by
  change (FilePath.parse p.asString).join = some p
  rw [FilePath.parse_asString_eq (FilePath.named_of_isWord h)]
  rfl

/-! ## The text of a command parses back to it -/

theorem parseCommandWords_toWords {c : Command} (hc : c.WellFormed) :
    parseCommandWords c.toWords = some (c, []) := by
  obtain ⟨words, normal⟩ := hc
  cases c with
  | rng numBytes => simp [Command.toWords, parseCommandWords, parseNextWord, parseWord, fromStr_uint32]
  | virtIOBlock command =>
      cases command <;> simp [Command.toWords, parseCommandWords, parseNextWord, parseWord, fromStr_uint64]
  | mount target =>
      cases target with
      | device deviceId =>
          simp only [Command.toWords, parseCommandWords]
          split
          · rename_i same
            exact absurd (List.cons.inj same).1 (repr_ne_sysfs _)
          · rename_i same
            obtain ⟨rfl, rfl⟩ := same
            simp [parseWord, fromStr_uint64]
          · rename_i same
            cases same
      | sysfs => rfl
  | ls path =>
      simp [Command.toWords, parseCommandWords, parseNextWord, parseWord,
        fromStr_asString (words path.asString (by simp [Command.toWords]))]
  | cat path =>
      simp [Command.toWords, parseCommandWords, parseNextWord, parseWord,
        fromStr_asString (words path.asString (by simp [Command.toWords]))]
  | exec command =>
      obtain ⟨path, args, numProcesses⟩ := command
      simp [Command.toWords, parseCommandWords, parseNextWord, parseWord, fromStr_uint64,
        fromStr_asString (words path.asString (by simp [Command.toWords]))]
  | writeFramebuffer content =>
      simp [Command.toWords, parseCommandWords]
      exact beq_iff_eq.mp normal
  | writeToFile path content =>
      simp [Command.toWords, parseCommandWords, parseNextWord, parseWord,
        fromStr_asString (words path.asString (by simp [Command.toWords]))]
      rfl
  | fatBIOS deviceId => simp [Command.toWords, parseCommandWords, parseNextWord, parseWord, fromStr_uint64]
  | timer milliseconds => simp [Command.toWords, parseCommandWords, parseNextWord, parseWord, fromStr_uint64]
  | sleep milliseconds => simp [Command.toWords, parseCommandWords, parseNextWord, parseWord, fromStr_uint64]
  | prime command =>
      cases command <;> simp [Command.toWords, parseCommandWords, parseNextWord, parseWord, fromStr_uint64]
  | _ => rfl

/-! ## What the parser returns is the text of a command -/

theorem isWord_asString_of_fromStr {word : String} {p : FilePath}
    (h : FromStr.fromStr word = some p) (hw : IsWord word) : IsWord p.asString := by
  have parsed : FilePath.parse word = some (some p) := Option.join_eq_some_iff.mp h
  refine ⟨fun empty => ?_, fun c hc => ?_⟩
  · have back := FilePath.parse_asString_eq (FilePath.parsed parsed)
    have root : FilePath.parse "" = some none := by decide
    rw [String.toList_eq_nil_iff.mp empty, root] at back
    cases back
  · rcases FilePath.mem_asString_of_parse parsed c hc with rfl | hc
    · decide
    · exact hw.2 c hc

section Words

variable {α : Type} [FromStr α]

theorem parseNextWord_words {ws rest : List String} {val : α}
    (h : parseNextWord ws = some (val, rest)) (words : ∀ w ∈ ws, IsWord w) :
    (∃ word, IsWord word ∧ parseWord word = some val) ∧ ∀ w ∈ rest, IsWord w := by
  obtain ⟨word, rfl, read⟩ := parseNextWord_eq_some.mp h
  exact ⟨⟨word, words word List.mem_cons_self, read⟩,
    fun w hw => words w (List.mem_cons_of_mem word hw)⟩

end Words

theorem parseNextWord_path {ws rest : List String} {p : FilePath}
    (h : parseNextWord ws = some (p, rest)) (words : ∀ w ∈ ws, IsWord w) :
    IsWord p.asString ∧ ∀ w ∈ rest, IsWord w := by
  obtain ⟨⟨word, hw, read⟩, rest⟩ := parseNextWord_words h words
  exact ⟨isWord_asString_of_fromStr read hw, rest⟩

theorem parseNextWord_string {ws rest : List String} {content : String}
    (h : parseNextWord ws = some (content, rest)) (words : ∀ w ∈ ws, IsWord w) :
    IsWord content ∧ ∀ w ∈ rest, IsWord w := by
  obtain ⟨⟨word, hw, read⟩, rest⟩ := parseNextWord_words h words
  cases read
  exact ⟨hw, rest⟩

theorem wellFormed_of_parseCommandWords {ws : List String} {c : Command}
    (words : ∀ w ∈ ws, IsWord w) (h : parseCommandWords ws = some (c, [])) : c.WellFormed := by
  unfold parseCommandWords at h
  split at h
  · cases h
  rename_i first rest
  have restWords : ∀ w ∈ rest, IsWord w := fun w hw => words w (List.mem_cons_of_mem first hw)
  -- one goal per word `parse_command` knows, and one for the words it does not
  split at h
  all_goals simp only [Option.bind_eq_bind, Option.bind_eq_some_iff, Option.some.injEq,
    Prod.mk.injEq, reduceCtorEq] at h
  -- commands without arguments
  case h_1 | h_2 | h_3 | h_4 | h_5 | h_6 | h_7 | h_8 | h_12 =>
    obtain ⟨rfl, -⟩ := h
    decide
  -- commands with one number
  case h_9 | h_19 | h_20 =>
    obtain ⟨_, -, rfl, -⟩ := h
    exact ⟨by simp +decide [Command.toWords, isWord_repr], rfl⟩
  case h_10 =>
    split at h <;> simp only [Option.bind_eq_some_iff, Option.some.injEq, Prod.mk.injEq,
      reduceCtorEq] at h
    · obtain ⟨rfl, -⟩ := h
      decide
    · obtain ⟨_, -, _, -, rfl, -⟩ := h
      exact ⟨by simp +decide [Command.toWords, isWord_repr], rfl⟩
    · obtain ⟨_, -, _, -, _, -, rfl, -⟩ := h
      exact ⟨by simp +decide [Command.toWords, isWord_repr], rfl⟩
    · obtain ⟨_, -, rfl, -⟩ := h
      exact ⟨by simp +decide [Command.toWords, isWord_repr], rfl⟩
  case h_11 =>
    split at h <;> simp only [Option.bind_eq_some_iff, Option.some.injEq, Prod.mk.injEq,
      reduceCtorEq] at h
    · obtain ⟨rfl, -⟩ := h
      decide
    · obtain ⟨_, -, rfl, -⟩ := h
      exact ⟨by simp +decide [Command.toWords, isWord_repr], rfl⟩
  case h_13 | h_14 =>
    obtain ⟨⟨p, rest'⟩, read, rfl, -⟩ := h
    have path := (parseNextWord_path read restWords).1
    exact ⟨by simp +decide [Command.toWords, path], rfl⟩
  case h_15 =>
    obtain ⟨⟨numProcesses, rest'⟩, readNumber, ⟨p, args⟩, readPath, rfl, -⟩ := h
    obtain ⟨path, argWords⟩ :=
      parseNextWord_path readPath (parseNextWord_words readNumber restWords).2
    refine ⟨?_, rfl⟩
    simp +decide only [Command.toWords, List.cons_append, List.mem_cons, forall_eq_or_imp,
      isWord_repr, path, true_and]
    exact argWords
  case h_16 =>
    obtain ⟨rfl, -⟩ := h
    have back := splitWhitespace_join restWords
    refine ⟨?_, ?_⟩
    · simp +decide only [Command.toWords, back, List.mem_cons, forall_eq_or_imp, true_and]
      exact restWords
    · simp only [Command.normal, back, beq_self_eq_true]
  case h_17 =>
    obtain ⟨⟨p, rest'⟩, readPath, ⟨content, rest''⟩, readContent, rfl, -⟩ := h
    obtain ⟨path, contentWords⟩ := parseNextWord_path readPath restWords
    have text := (parseNextWord_string readContent contentWords).1
    exact ⟨by simp +decide [Command.toWords, path, text], rfl⟩
  case h_18 =>
    split at h <;> simp only [Option.bind_eq_some_iff, Option.some.injEq, Prod.mk.injEq,
      reduceCtorEq] at h
    obtain ⟨_, -, rfl, -⟩ := h
    exact ⟨by simp +decide [Command.toWords, isWord_repr], rfl⟩
  case h_21 =>
    split at h <;> simp only [Option.bind_eq_some_iff, Option.some.injEq, Prod.mk.injEq,
      Option.bind_some, Option.bind_none, reduceCtorEq, if_true, Bool.false_eq_true, if_false] at h
    · obtain ⟨_, -, rfl, -⟩ := h
      exact ⟨by simp +decide [Command.toWords, isWord_repr], rfl⟩
    · obtain ⟨_, -, _, -, rfl, -⟩ := h
      exact ⟨by simp +decide [Command.toWords, isWord_repr], rfl⟩

/-! ## `parse_command` and the text of a command are inverse -/

theorem parseCommand_render {c : Command} (hc : c.WellFormed) :
    parseCommand c.render.toByteArray = some c := by
  simp only [parseCommand, fromUTF8?_toByteArray, Command.render, splitWhitespace_intercalate hc.1,
    parseCommandWords_toWords hc]
  rfl

theorem wellFormed_of_parseCommand {buffer : ByteArray} {c : Command}
    (h : parseCommand buffer = some c) : c.WellFormed := by
  unfold parseCommand at h
  split at h
  · cases h
  · rename_i commandStr _
    split at h
    · cases h
    · rename_i command rest parsed
      split at h
      · rename_i empty
        cases h
        rw [List.isEmpty_iff.mp empty] at parsed
        exact wellFormed_of_parseCommandWords (fun _ hw => isWord_of_mem_splitWhitespace hw) parsed
      · cases h

theorem parseCommand_of_fromUTF8? {buffer : ByteArray} {commandStr : String}
    (h : String.fromUTF8? buffer = some commandStr) :
    parseCommand buffer = parseCommand commandStr.toByteArray := by
  simp only [parseCommand, h, fromUTF8?_toByteArray]

/-- The text of a well-formed command parses back to it, and every command `parse_command`
returns is well formed, so its text parses back to it. -/
theorem shell_parse_round_trip :
    (∀ c : Command, c.WellFormed → parseCommand c.render.toByteArray = some c) ∧
      ∀ (buffer : ByteArray) (c : Command), parseCommand buffer = some c →
        c.WellFormed ∧ parseCommand c.render.toByteArray = some c :=
  ⟨fun _ hc => parseCommand_render hc, fun _ _ h =>
    ⟨wellFormed_of_parseCommand h, parseCommand_render (wellFormed_of_parseCommand h)⟩⟩

theorem shell_parse_round_trip_writeFramebuffer :
    (Command.writeFramebuffer "hello world ").WellFormed ∧
      parseCommand (Command.writeFramebuffer "hello world ").render.toByteArray =
        some (.writeFramebuffer "hello world ") :=
  ⟨by decide, shell_parse_round_trip.1 _ (by decide)⟩

end RustOs.Shell
