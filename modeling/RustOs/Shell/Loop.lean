import RustOs.Shell.Parse

/-!
# The shell's input loop

`shell.rs`: `shell_loop` reads bytes from the serial port into the line `NEXT_COMMAND_BUFFER`.
`\n` or `\r` parses the line, runs its command and clears the line; DEL deletes the last byte; a
printable byte is added while `ShellBuffer::add_char` has room for it; `^C` clears the line; an
escape byte makes `handle_ansi_escape_sequence` read two more bytes. `step` is what one byte
does, with the read the program waits in as part of the state; `run` reads a list of bytes and
returns the commands it runs. Writing to the serial port is not modelled.

Over every run, the line holds fewer than `MAX_SIZE` printable bytes, so the bytes
`parse_command` gets are always valid UTF-8 (`shell_lines_printable`); the text of a command typed
and ended by Enter runs that command (`shell_runs_typed_command`). `run_serial_shell` splits the
kernel command line at `;`, and commands joined by `;` run in order
(`cmdline_round_trip`).
-/

namespace RustOs.Shell

open Text

structure ShellBuffer where
  buffer : List UInt8

namespace ShellBuffer

def maxSize : Nat := 512

def new : ShellBuffer := ⟨[]⟩

/-- `add_char`: the line keeps room for the byte that ends it. -/
def addChar (self : ShellBuffer) (c : UInt8) : ShellBuffer × Bool :=
  if self.buffer.length < maxSize - 1 then (⟨self.buffer ++ [c]⟩, true) else (self, false)

/-- `delete_char`: `Vec::pop`. -/
def deleteChar (self : ShellBuffer) : ShellBuffer × Bool :=
  match self.buffer.getLast? with
  | some _ => (⟨self.buffer.dropLast⟩, true)
  | none => (self, false)

def clear (_self : ShellBuffer) : ShellBuffer := ⟨[]⟩

def IsPrintable (c : UInt8) : Prop := 32 ≤ c ∧ c ≤ 126

instance : DecidablePred IsPrintable := fun c => inferInstanceAs (Decidable (32 ≤ c ∧ c ≤ 126))

/-- What the line holds in every state of the shell: fewer than `MAX_SIZE` printable bytes. -/
def Printable (self : ShellBuffer) : Prop :=
  self.buffer.length < maxSize ∧ ∀ c ∈ self.buffer, IsPrintable c

theorem addChar_printable {self : ShellBuffer} (h : self.Printable) {c : UInt8}
    (hc : IsPrintable c) : (self.addChar c).1.Printable := by
  unfold addChar
  split
  · refine ⟨by simp [maxSize] at *; omega, fun b hb => ?_⟩
    rcases List.mem_append.mp hb with hb | hb
    · exact h.2 b hb
    · rwa [List.mem_singleton.mp hb]
  · exact h

theorem deleteChar_printable {self : ShellBuffer} (h : self.Printable) :
    (self.deleteChar).1.Printable := by
  unfold deleteChar
  split
  · exact ⟨by simp only [List.length_dropLast]; exact Nat.lt_of_le_of_lt (Nat.sub_le _ _) h.1,
      fun b hb => h.2 b (List.dropLast_subset _ hb)⟩
  · exact h

theorem clear_printable (self : ShellBuffer) : self.clear.Printable :=
  ⟨by show 0 < 512; decide, fun _ hb => absurd hb List.not_mem_nil⟩

end ShellBuffer

/-- Where the shell waits for its next byte: in `shell_loop`, or in `handle_ansi_escape_sequence`
for the `[` or for the character after it. -/
inductive Reading
  | command
  | leftBracket
  | escapedChar
  deriving DecidableEq

structure ShellState where
  line : ShellBuffer
  reading : Reading

def ShellState.initial : ShellState := ⟨ShellBuffer.new, .command⟩

/-- One byte read by the shell, and the command it runs. -/
def step (shell : ShellState) (c : UInt8) : ShellState × Option Command :=
  match shell.reading with
  | .leftBracket => (⟨shell.line, if c = 91 then .escapedChar else .command⟩, none)
  | .escapedChar => (⟨shell.line, .command⟩, none)
  | .command =>
      if c = 10 ∨ c = 13 then (⟨shell.line.clear, .command⟩, parseCommand shell.line.buffer.toByteArray)
      else if c = 127 then (⟨shell.line.deleteChar.1, .command⟩, none)
      else if 32 ≤ c ∧ c ≤ 126 then (⟨(shell.line.addChar c).1, .command⟩, none)
      else if c = 3 then (⟨shell.line.clear, .command⟩, none)
      else if c = 27 then (⟨shell.line, .leftBracket⟩, none)
      else (shell, none)

def run (shell : ShellState) : List UInt8 → ShellState × List Command
  | [] => (shell, [])
  | c :: input =>
      let after := run (step shell c).1 input
      (after.1, (step shell c).2.toList ++ after.2)

theorem run_append (shell : ShellState) (input more : List UInt8) :
    run shell (input ++ more) =
      ((run (run shell input).1 more).1, (run shell input).2 ++ (run (run shell input).1 more).2) := by
  induction input generalizing shell with
  | nil => rfl
  | cons c input ih => simp [run, ih]

/-! ## The line over every run -/

theorem step_printable {shell : ShellState} (h : shell.line.Printable) (c : UInt8) :
    (step shell c).1.line.Printable ∧
      ∀ command ∈ (step shell c).2, ∃ line : ShellBuffer, line.Printable ∧
        parseCommand line.buffer.toByteArray = some command := by
  unfold step
  split
  · exact ⟨h, fun _ none => by cases none⟩
  · exact ⟨h, fun _ none => by cases none⟩
  · -- `shell_loop`'s own read: one case per arm of its `match`
    split
    · exact ⟨shell.line.clear_printable, fun command parsed => ⟨shell.line, h, parsed⟩⟩
    split
    · exact ⟨ShellBuffer.deleteChar_printable h, fun _ none => by cases none⟩
    split
    · exact ⟨ShellBuffer.addChar_printable h ‹_›, fun _ none => by cases none⟩
    split
    · exact ⟨shell.line.clear_printable, fun _ none => by cases none⟩
    split
    · exact ⟨h, fun _ none => by cases none⟩
    · exact ⟨h, fun _ none => by cases none⟩

theorem run_printable {shell : ShellState} (h : shell.line.Printable) (input : List UInt8) :
    (run shell input).1.line.Printable ∧
      ∀ command ∈ (run shell input).2, ∃ line : ShellBuffer, line.Printable ∧
        parseCommand line.buffer.toByteArray = some command := by
  induction input generalizing shell with
  | nil => exact ⟨h, fun _ none => by cases none⟩
  | cons c input ih =>
      obtain ⟨stepLine, stepParsed⟩ := step_printable h c
      obtain ⟨runLine, runParsed⟩ := ih stepLine
      refine ⟨runLine, fun command hc => ?_⟩
      rcases List.mem_append.mp hc with hc | hc
      · exact stepParsed command (Option.mem_toList.mp hc)
      · exact runParsed command hc

theorem ShellBuffer.fromUTF8?_of_printable {line : ShellBuffer} (h : line.Printable) :
    String.fromUTF8? line.buffer.toByteArray =
      some (String.ofList (line.buffer.map Char.ofUInt8)) :=
  fromUTF8?_ascii fun c hc => UInt8.lt_of_le_of_lt (h.2 c hc).2 (by decide)

/-- Every command the shell runs, over any input, is parsed from a line of fewer than
`MAX_SIZE` printable bytes, which `from_utf8` accepts. -/
theorem shell_lines_printable {input : List UInt8} {command : Command}
    (ran : command ∈ (run ShellState.initial input).2) :
    ∃ line : List UInt8, line.length < ShellBuffer.maxSize ∧ (∀ c ∈ line, 32 ≤ c ∧ c ≤ 126) ∧
      String.fromUTF8? line.toByteArray = some (String.ofList (line.map Char.ofUInt8)) ∧
      parseCommand line.toByteArray = some command := by
  obtain ⟨line, printable, parsed⟩ :=
    (run_printable (ShellBuffer.clear_printable ShellBuffer.new) input).2 command ran
  exact ⟨line.buffer, printable.1, printable.2, ShellBuffer.fromUTF8?_of_printable printable, parsed⟩

theorem shell_lines_printable_listPci :
    Command.listPCI ∈ (run ShellState.initial ("list-pci".toList.map Char.toUInt8 ++ [13])).2 ∧
      ∃ line : List UInt8, line.length < ShellBuffer.maxSize ∧ (∀ c ∈ line, 32 ≤ c ∧ c ≤ 126) ∧
        String.fromUTF8? line.toByteArray = some (String.ofList (line.map Char.ofUInt8)) ∧
        parseCommand line.toByteArray = some .listPCI :=
  ⟨by decide, @shell_lines_printable ("list-pci".toList.map Char.toUInt8 ++ [13]) .listPCI (by decide)⟩

/-! ## A typed command runs -/

def IsPrintableText (s : String) : Prop := ∀ ch ∈ s.toList, 32 ≤ ch.toNat ∧ ch.toNat ≤ 126

instance : DecidablePred IsPrintableText := fun s =>
  decidable_of_iff (s.toList.all fun ch => 32 ≤ ch.toNat && ch.toNat ≤ 126)
    (by simp [IsPrintableText])

theorem step_printable_byte (line : ShellBuffer) {c : UInt8} (hc : ShellBuffer.IsPrintable c) :
    step ⟨line, .command⟩ c = (⟨(line.addChar c).1, .command⟩, none) := by
  have newline : ¬(c = 10 ∨ c = 13) := by
    rintro (rfl | rfl) <;> exact absurd hc.1 (by decide)
  have delete : c ≠ 127 := by
    rintro rfl
    exact absurd hc.2 (by decide)
  simp only [step, if_neg newline, if_neg delete, if_pos (show 32 ≤ c ∧ c ≤ 126 from hc)]

theorem step_enter (line : ShellBuffer) :
    step ⟨line, .command⟩ 13 = (ShellState.initial, parseCommand line.buffer.toByteArray) := rfl

theorem run_typed {line typed : List UInt8} (printable : ∀ c ∈ typed, ShellBuffer.IsPrintable c)
    (room : line.length + typed.length < ShellBuffer.maxSize) :
    run ⟨⟨line⟩, .command⟩ typed = (⟨⟨line ++ typed⟩, .command⟩, []) := by
  induction typed generalizing line with
  | nil => simp [run]
  | cons c typed ih =>
      have fits : (⟨line⟩ : ShellBuffer).buffer.length < ShellBuffer.maxSize - 1 := by
        simp [ShellBuffer.maxSize] at room ⊢
        omega
      have added : (ShellBuffer.addChar ⟨line⟩ c).1 = ⟨line ++ [c]⟩ := by
        unfold ShellBuffer.addChar
        rw [if_pos fits]
      have rest := @ih (line ++ [c]) (fun c' hc' => printable c' (List.mem_cons_of_mem c hc'))
        (by simp at room ⊢; omega)
      simp only [run, step_printable_byte _ (printable c List.mem_cons_self), added, rest]
      simp

/-- The text of a well-formed command, typed in printable characters at a fresh line and ended
by Enter, runs that command, and leaves the shell as it started. -/
theorem shell_runs_typed_command {c : Command} (hc : c.WellFormed)
    (printable : IsPrintableText c.render) (short : c.render.length < ShellBuffer.maxSize)
    (more : List UInt8) :
    run ShellState.initial (c.render.toList.map Char.toUInt8 ++ 13 :: more) =
      ((run ShellState.initial more).1, c :: (run ShellState.initial more).2) := by
  have bytes : ∀ b ∈ c.render.toList.map Char.toUInt8, ShellBuffer.IsPrintable b := by
    simp only [List.mem_map]
    rintro _ ⟨ch, hch, rfl⟩
    have range := printable ch hch
    have hb : ch.toUInt8.toNat = ch.toNat := by
      simp only [Char.toUInt8, UInt32.toNat_toUInt8]
      change ch.toNat % 256 = ch.toNat
      omega
    exact ⟨UInt8.le_iff_toNat_le.mpr (by simp [hb]; omega),
      UInt8.le_iff_toNat_le.mpr (by simp [hb]; omega)⟩
  have chars : (c.render.toList.map Char.toUInt8).map Char.ofUInt8 = c.render.toList := by
    rw [List.map_map]
    calc c.render.toList.map (Char.ofUInt8 ∘ Char.toUInt8) = c.render.toList.map id :=
          List.map_congr_left fun ch hch => ofUInt8_toUInt8 (by have := printable ch hch; omega)
      _ = c.render.toList := List.map_id _
  have decoded : String.fromUTF8? (c.render.toList.map Char.toUInt8).toByteArray = some c.render := by
    rw [fromUTF8?_ascii fun b hb => UInt8.lt_of_le_of_lt (bytes b hb).2 (by decide), chars,
      String.ofList_toList]
  have typed : run ShellState.initial (c.render.toList.map Char.toUInt8) =
      (⟨⟨c.render.toList.map Char.toUInt8⟩, .command⟩, []) :=
    @run_typed [] _ bytes (by simpa [String.length_toList] using short)
  rw [run_append, typed]
  simp only [List.nil_append, run, step_enter, parseCommand_of_fromUTF8? decoded,
    parseCommand_render hc, Option.toList_some, List.singleton_append]

theorem shell_runs_typed_command_listPci :
    Command.listPCI.WellFormed ∧ IsPrintableText Command.listPCI.render ∧
      Command.listPCI.render.length < ShellBuffer.maxSize ∧
      run ShellState.initial (Command.listPCI.render.toList.map Char.toUInt8 ++ [13]) =
        (ShellState.initial, [.listPCI]) :=
  ⟨by decide, by decide, by decide,
    shell_runs_typed_command (c := .listPCI) (by decide) (by decide) (by decide) []⟩

/-! ## The kernel command line -/

/-- `run_serial_shell`: the commands of the kernel command line, each piece between `;`s that
parses, then `shell_loop` on the bytes read. -/
def runSerialShell (cmdline : String) (input : List UInt8) : List Command :=
  (if cmdline.isEmpty then []
   else ((cmdline.toList.splitOn ';').map String.ofList).filterMap fun commandStr =>
      parseCommand commandStr.toByteArray) ++
    (run ShellState.initial input).2

theorem runSerialShell_eq (cmdline : String) (input : List UInt8) :
    runSerialShell cmdline input =
      ((cmdline.toList.splitOn ';').map String.ofList).filterMap
          (fun commandStr => parseCommand commandStr.toByteArray) ++
        (run ShellState.initial input).2 := by
  unfold runSerialShell
  split
  · rename_i empty
    rw [String.isEmpty_iff.mp empty]
    rfl
  · rfl

/-- Well-formed commands whose texts have no `;`, joined by `;` on the kernel command line, run
in order before the shell reads its first byte. -/
theorem cmdline_round_trip {cs : List Command} (wellFormed : ∀ c ∈ cs, c.WellFormed)
    (noSemicolon : ∀ c ∈ cs, ';' ∉ c.render.toList) (input : List UInt8) :
    runSerialShell (";".intercalate (cs.map Command.render)) input =
      cs ++ (run ShellState.initial input).2 := by
  rw [runSerialShell_eq]
  congr 1
  cases cs with
  | nil => rfl
  | cons c cs =>
      have pieces : ((";".intercalate ((c :: cs).map Command.render)).toList.splitOn ';').map
          String.ofList = (c :: cs).map Command.render := by
        rw [String.toList_intercalate, show ";".toList = [';'] from rfl,
          List.splitOn_intercalate ';' (by simpa using noSemicolon) (by simp), List.map_map,
          List.map_map]
        simp
      rw [pieces, List.filterMap_map]
      calc List.filterMap ((fun commandStr => parseCommand commandStr.toByteArray) ∘ Command.render)
            (c :: cs) = List.filterMap some (c :: cs) :=
          List.filterMap_congr fun c' hc' => parseCommand_render (wellFormed c' hc')
        _ = c :: cs := List.filterMap_some

theorem cmdline_round_trip_two :
    (∀ c ∈ [Command.listPCI, .exit], c.WellFormed) ∧
      (∀ c ∈ [Command.listPCI, .exit], ';' ∉ c.render.toList) ∧
      runSerialShell "list-pci;exit" [] = [.listPCI, .exit] :=
  ⟨by decide, by decide,
    @cmdline_round_trip [.listPCI, .exit] (by decide) (by decide) []⟩

end RustOs.Shell
