import RustOs.Lib.X86

/-!
# Switching tasks

`switch_to_task` of `sched/schedcore.rs`, instruction by instruction: push the fifteen general
purpose registers, store the stack pointer through the first argument (the previous task's
`registers.rsp`), load the stack pointer from the second argument and `cr3` from the third, pop
fifteen registers and return. `Task::new` of `sched/task.rs` lays out the stack of a new task so
that this pop enters `task_setup`.

A task that was switched away from is suspended in a frame: from its saved stack pointer up, its
registers in the order they are popped, then its return address (`Frame`). Switching to a
suspended task loads its registers and returns to it, and leaves the task switched away from
suspended with the registers it had (`switchToTask_resumes`, `switchToTask_suspends`).
-/

namespace RustOs.Sched
open X86

/-- The registers `switch_to_task` pushes, in order; it pops them in the reverse order. -/
def savedRegs : List Reg :=
  [.rax, .rbx, .rcx, .rdx, .rbp, .rsi, .rdi, .r8, .r9, .r10, .r11, .r12, .r13, .r14, .r15]

def switchToTask : List Instr :=
  [.push (.reg .rax), .push (.reg .rbx), .push (.reg .rcx), .push (.reg .rdx), .push (.reg .rbp),
    .push (.reg .rsi), .push (.reg .rdi), .push (.reg .r8), .push (.reg .r9), .push (.reg .r10),
    .push (.reg .r11), .push (.reg .r12), .push (.reg .r13), .push (.reg .r14), .push (.reg .r15),
    .store .rdi .rsp,
    .mov .rsp (.reg .rsi),
    .movCr3 .rdx,
    .pop .r15, .pop .r14, .pop .r13, .pop .r12, .pop .r11, .pop .r10, .pop .r9, .pop .r8,
    .pop .rdi, .pop .rsi, .pop .rbp, .pop .rdx, .pop .rcx, .pop .rbx, .pop .rax,
    .ret]

theorem switchToTask_eq : switchToTask =
    (savedRegs.map Operand.reg).map Instr.push ++ [.store .rdi .rsp, .mov .rsp (.reg .rsi), .movCr3 .rdx] ++
      savedRegs.reverse.map Instr.pop ++ [.ret] := rfl

theorem rsp_notMem_savedRegs : Reg.rsp ∉ savedRegs := by decide

/-- Memory after `switch_to_task`: the pushed registers below the stack pointer, and the new
stack pointer stored through `rdi`. -/
def switchedMem (m : Machine) : UInt64 → UInt64 :=
  Function.update (storeWords m.mem (below (m.regs .rsp) 15) (savedRegs.reverse.map m.regs))
    (m.regs .rdi) (below (m.regs .rsp) 15)

theorem switchToTask_spec (m : Machine) :
    m.run switchToTask =
      { m with
        regs := Function.update (loadRegs (Function.update m.regs .rsp (m.regs .rsi)) (switchedMem m)
          (m.regs .rsi) savedRegs.reverse) .rsp (slot (m.regs .rsi) 16)
        rip := switchedMem m (slot (m.regs .rsi) 15)
        cr3 := m.regs .rdx
        mem := switchedMem m } := by
  have pushed := run_pushes (savedRegs.map Operand.reg) m (by decide) (by simp) (by simp [savedRegs])
  have values : (savedRegs.map Operand.reg).reverse.map m.operand = savedRegs.reverse.map m.regs := by
    rw [List.map_reverse, List.map_map]
    rfl
  have rdi : Reg.rdi ≠ Reg.rsp := by decide
  have rsi : Reg.rsi ≠ Reg.rsp := by decide
  have rdx : Reg.rdx ≠ Reg.rsp := by decide
  have len : savedRegs.length = 15 := rfl
  rw [switchToTask_eq, run_append, run_append, run_append, pushed, values, List.length_map, len]
  simp only [run_cons, run_nil, exec, Machine.regs_write, Machine.regs_setReg,
    Function.update_self, Function.update_of_ne rdi, Machine.operand]
  rw [run_pops _ _ (by decide)]
  simp only [Machine.setReg, Machine.write, Function.update_self, Function.update_of_ne rsi,
    Function.update_of_ne rdx, Function.update_idem, List.length_reverse, len, slot_add_eight]
  rfl

/-! ## Frames -/

structure Context where
  regs : Reg → UInt64
  rip : UInt64

/-- The words of the frame `switch_to_task` resumes `c` from, lowest first: the registers in the
order they are popped, then the return address. -/
def frameWords (c : Context) : List UInt64 := savedRegs.reverse.map c.regs ++ [c.rip]

def Frame (mem : UInt64 → UInt64) (sp : UInt64) (c : Context) : Prop :=
  (∀ i < 16, mem (slot sp i) = (frameWords c).getD i 0) ∧ c.regs .rsp = slot sp 16

/-- What the caller of `switch_to_task` continues with when it is switched back to: the
registers it called with, the return address popped. -/
def returnContext (m : Machine) : Context :=
  ⟨Function.update m.regs .rsp (m.regs .rsp + 8), m.mem (m.regs .rsp)⟩

theorem mem_savedRegs {r : Reg} (hr : r ≠ .rsp) : r ∈ savedRegs := by
  cases r <;> simp [savedRegs] at hr ⊢

theorem frameWords_getD_of_lt (c : Context) {i : Nat} (hi : i < 15) :
    (frameWords c).getD i 0 = (savedRegs.reverse.map c.regs).getD i 0 := by
  rw [frameWords, List.getD_eq_getElem?_getD, List.getElem?_append_left (by simpa [savedRegs] using hi),
    ← List.getD_eq_getElem?_getD]

theorem frameWords_getD_15 (c : Context) : (frameWords c).getD 15 0 = c.rip := rfl

theorem Frame.congr {mem mem' : UInt64 → UInt64} {sp : UInt64} {c : Context} (hframe : Frame mem sp c)
    (same : ∀ i < 16, mem' (slot sp i) = mem (slot sp i)) : Frame mem' sp c :=
  ⟨fun i hi => (same i hi).trans (hframe.1 i hi), hframe.2⟩

theorem Frame.loadRegs {mem : UInt64 → UInt64} {sp : UInt64} {c : Context} (hframe : Frame mem sp c)
    (regs : Reg → UInt64) :
    loadRegs regs mem sp savedRegs.reverse = fun r => if r ∈ savedRegs then c.regs r else regs r := by
  have words : ∀ i < savedRegs.reverse.length,
      mem (slot sp i) = storeWords mem sp (savedRegs.reverse.map c.regs) (slot sp i) := by
    intro i hi
    have hi' : i < 15 := by simpa [savedRegs] using hi
    rw [hframe.1 i (by omega), frameWords_getD_of_lt c hi', storeWords_slot (by simpa using hi)
      (by simp [savedRegs]), List.getD_eq_getElem _ _ (by simpa using hi)]
  rw [loadRegs_congr words, loadRegs_storeWords c.regs (by simp [savedRegs])]
  simp only [List.mem_reverse]

theorem switchedMem_of_ne {m : Machine} {a : UInt64} (hrdi : a ≠ m.regs .rdi)
    (outside : ∀ j < 15, a ≠ slot (below (m.regs .rsp) 15) j) : switchedMem m a = m.mem a := by
  rw [switchedMem, Function.update_of_ne hrdi, storeWords_of_ne (by simpa [savedRegs] using outside)]

theorem switchToTask_resumes {m : Machine} {c : Context} (hframe : Frame m.mem (m.regs .rsi) c)
    (apart : ∀ i < 16, slot (m.regs .rsi) i ≠ m.regs .rdi ∧
      ∀ j < 15, slot (m.regs .rsi) i ≠ slot (below (m.regs .rsp) 15) j) :
    (m.run switchToTask).regs = c.regs ∧ (m.run switchToTask).rip = c.rip ∧
      (m.run switchToTask).cr3 = m.regs .rdx := by
  have kept : Frame (switchedMem m) (m.regs .rsi) c :=
    hframe.congr fun i hi => switchedMem_of_ne (apart i hi).1 (apart i hi).2
  rw [switchToTask_spec]
  refine ⟨?_, ?_, rfl⟩
  · funext r
    by_cases hr : r = .rsp
    · subst hr
      simp only [Function.update_self]
      exact kept.2.symm
    · simp only [Function.update_of_ne hr, kept.loadRegs, mem_savedRegs hr, if_true]
  · exact (kept.1 15 (by omega)).trans (frameWords_getD_15 c)

theorem returnContext_regs_of_mem (m : Machine) {r : Reg} (hr : r ∈ savedRegs) :
    (returnContext m).regs r = m.regs r := by
  have hne : r ≠ .rsp := by
    rintro rfl
    exact rsp_notMem_savedRegs hr
  exact Function.update_of_ne hne _ _

theorem run_switchToTask_mem (m : Machine) : (m.run switchToTask).mem = switchedMem m := by
  rw [switchToTask_spec]

theorem switchToTask_suspends {m : Machine}
    (hrdi : ∀ j < 16, m.regs .rdi ≠ slot (below (m.regs .rsp) 15) j) :
    Frame (m.run switchToTask).mem (below (m.regs .rsp) 15) (returnContext m) ∧
      (m.run switchToTask).mem (m.regs .rdi) = below (m.regs .rsp) 15 := by
  rw [run_switchToTask_mem]
  refine ⟨⟨fun i hi => ?_, ?_⟩, Function.update_self _ _ _⟩
  · rw [switchedMem, Function.update_of_ne (hrdi i hi).symm]
    by_cases top : i = 15
    · -- the return address, above the pushed registers
      subst top
      rw [storeWords_of_ne fun j hj same => ?_, slot_below_self]
      · rfl
      · simp only [List.length_map, List.length_reverse, savedRegs, List.length_cons,
          List.length_nil] at hj
        have := slot_inj (by omega) (by omega) same
        omega
    · have hi' : i < 15 := by omega
      have hlen : i < (savedRegs.reverse.map m.regs).length := by simpa [savedRegs] using hi'
      rw [frameWords_getD_of_lt _ hi', storeWords_slot hlen (by simp [savedRegs]),
        List.getD_eq_getElem _ _ (by simpa using hlen)]
      simp only [List.getElem_map]
      exact (returnContext_regs_of_mem m (List.mem_reverse.mp (List.getElem_mem _))).symm
  · show Function.update m.regs .rsp (m.regs .rsp + 8) .rsp = _
    rw [Function.update_self, ← slot_add_eight, slot_below_self]

/-! ## The stack of a new task -/

/-- The words `Task::new` writes through `stack_top_pointer.sub(k)` below the top of the new
task's kernel stack: `task_setup` at `sub(2)`, `arg` at `sub(8)` and `start_fn` at `sub(9)`. -/
def taskNewStack (mem : UInt64 → UInt64) (top taskSetup startFn arg : UInt64) : UInt64 → UInt64 :=
  Function.update (Function.update (Function.update mem (top - 8 * 2) taskSetup) (top - 8 * 8) arg)
    (top - 8 * 9) startFn

def taskNewRsp (top : UInt64) : UInt64 := top - 8 * (15 + 2)

/-- A new task starts in `task_setup(start_fn, arg)`, every other register zero and the stack
pointer on the zeroed top word. -/
def entryContext (top taskSetup startFn arg : UInt64) : Context :=
  ⟨Function.update (Function.update (Function.update 0 .rdi startFn) .rsi arg) .rsp (top - 8),
    taskSetup⟩

theorem taskNewStack_addrs (top : UInt64) :
    top - 8 * 9 = slot (taskNewRsp top) 8 ∧ top - 8 * 8 = slot (taskNewRsp top) 9 ∧
      top - 8 * 2 = slot (taskNewRsp top) 15 := by
  simp only [slot, taskNewRsp]
  refine ⟨?_, ?_, ?_⟩ <;> grind

theorem taskNewStack_slot (mem : UInt64 → UInt64) (top taskSetup startFn arg : UInt64) {i : Nat}
    (hi : i < 16) :
    taskNewStack mem top taskSetup startFn arg (slot (taskNewRsp top) i) =
      if i = 8 then startFn else if i = 9 then arg else if i = 15 then taskSetup
      else mem (slot (taskNewRsp top) i) := by
  obtain ⟨at8, at9, at15⟩ := taskNewStack_addrs top
  have e8 : slot (taskNewRsp top) i = slot (taskNewRsp top) 8 ↔ i = 8 :=
    slot_eq_slot_iff (by omega) (by omega)
  have e9 : slot (taskNewRsp top) i = slot (taskNewRsp top) 9 ↔ i = 9 :=
    slot_eq_slot_iff (by omega) (by omega)
  have e15 : slot (taskNewRsp top) i = slot (taskNewRsp top) 15 ↔ i = 15 :=
    slot_eq_slot_iff (by omega) (by omega)
  rw [taskNewStack, at8, at9, at15]
  simp only [Function.update_apply, e8, e9, e15]

theorem taskNewStack_of_ne {mem : UInt64 → UInt64} {top a : UInt64} (taskSetup startFn arg : UInt64)
    (outside : ∀ k < 16, a ≠ slot (taskNewRsp top) k) :
    taskNewStack mem top taskSetup startFn arg a = mem a := by
  obtain ⟨at8, at9, at15⟩ := taskNewStack_addrs top
  rw [taskNewStack, at8, at9, at15, Function.update_of_ne (outside 8 (by omega)),
    Function.update_of_ne (outside 9 (by omega)), Function.update_of_ne (outside 15 (by omega))]

theorem slot_taskNewRsp_toNat {top : UInt64} (htop : 136 ≤ top.toNat) {k : Nat} (hk : k < 17) :
    (slot (taskNewRsp top) k).toNat = top.toNat - 136 + 8 * k := by
  have le : (8 * (15 + 2) : UInt64) ≤ top := by
    rw [UInt64.le_iff_toNat_le]
    exact htop
  have sub : (taskNewRsp top).toNat = top.toNat - 136 := by
    rw [taskNewRsp, UInt64.toNat_sub_of_le _ _ le]
    rfl
  have bound := UInt64.toNat_lt top
  rw [slot, UInt64.toNat_add, sub, slot_toNat_offset]
  omega

theorem taskNew_frame {mem : UInt64 → UInt64} {top : UInt64} (taskSetup startFn arg : UInt64)
    (zeroed : ∀ i < 16, mem (slot (taskNewRsp top) i) = 0) :
    Frame (taskNewStack mem top taskSetup startFn arg) (taskNewRsp top)
      (entryContext top taskSetup startFn arg) := by
  refine ⟨fun i hi => ?_, ?_⟩
  · rw [taskNewStack_slot _ _ _ _ _ hi, zeroed i hi]
    interval_cases i <;> rfl
  · show top - 8 = slot (taskNewRsp top) 16
    simp only [slot, taskNewRsp]
    grind

end RustOs.Sched
