import Mathlib

/-!
# A subset of x86-64

The instructions that context switches and system call entry and exit are written in: `push`,
`pop`, `mov` between registers, immediates and GS-relative memory, stores through a register or
the GS segment, `mov cr3`, `add`, `swapgs`, `ret`, and the `syscall`/`sysretq` pair. Memory is
a map from addresses to quadwords, as every access of such code is one whole quadword at an
address no other access overlaps. Arithmetic flags are not modelled, and the instruction pointer
changes only at control transfers: straight-line code is a list of instructions run in order.

`run_pushes` and `run_pops` say what a sequence of pushes writes and a sequence of pops reads:
consecutive quadwords below, and from, the stack pointer (`storeWords`, `loadRegs`), and
`loadRegs_storeWords` that popping what was pushed gives the registers back.
-/

namespace X86

inductive Reg where
  | rax | rbx | rcx | rdx | rsi | rdi | rbp | rsp
  | r8 | r9 | r10 | r11 | r12 | r13 | r14 | r15
  deriving DecidableEq, Repr

inductive Mode where
  | kernel
  | user
  deriving DecidableEq, Repr

structure Core where
  regs : Reg → UInt64
  rip : UInt64
  rflags : UInt64
  cr3 : UInt64
  gsBase : UInt64
  kernelGsBase : UInt64
  mode : Mode

structure Machine extends Core where
  mem : UInt64 → UInt64

inductive Operand where
  | reg (r : Reg)
  | imm (value : UInt64)
  | gs (offset : UInt64)
  deriving DecidableEq, Repr

inductive Instr where
  | push (src : Operand)
  | pop (dst : Reg)
  | mov (dst : Reg) (src : Operand)
  | store (addr src : Reg)
  | storeGs (offset : UInt64) (src : Reg)
  | movCr3 (src : Reg)
  | add (dst : Reg) (value : UInt64)
  | swapgs
  | ret
  | sysretq
  deriving DecidableEq, Repr

namespace Machine

def setReg (m : Machine) (r : Reg) (v : UInt64) : Machine :=
  { m with regs := Function.update m.regs r v }

def write (m : Machine) (addr v : UInt64) : Machine :=
  { m with mem := Function.update m.mem addr v }

def operand (m : Machine) : Operand → UInt64
  | .reg r => m.regs r
  | .imm value => value
  | .gs offset => m.mem (m.gsBase + offset)

@[simp] theorem regs_setReg (m : Machine) (r : Reg) (v : UInt64) :
    (m.setReg r v).regs = Function.update m.regs r v := rfl

@[simp] theorem mem_setReg (m : Machine) (r : Reg) (v : UInt64) : (m.setReg r v).mem = m.mem := rfl

@[simp] theorem gsBase_setReg (m : Machine) (r : Reg) (v : UInt64) :
    (m.setReg r v).gsBase = m.gsBase := rfl

@[simp] theorem mem_write (m : Machine) (addr v : UInt64) :
    (m.write addr v).mem = Function.update m.mem addr v := rfl

@[simp] theorem regs_write (m : Machine) (addr v : UInt64) : (m.write addr v).regs = m.regs := rfl

@[simp] theorem gsBase_write (m : Machine) (addr v : UInt64) :
    (m.write addr v).gsBase = m.gsBase := rfl

end Machine

def syscall (lstar sfmask : UInt64) (m : Machine) : Machine :=
  { (m.setReg .rcx m.rip).setReg .r11 m.rflags with
    rip := lstar, rflags := m.rflags &&& ~~~sfmask, mode := .kernel }

def exec (m : Machine) : Instr → Machine
  | .push src => (m.setReg .rsp (m.regs .rsp - 8)).write (m.regs .rsp - 8) (m.operand src)
  | .pop dst => (m.setReg .rsp (m.regs .rsp + 8)).setReg dst (m.mem (m.regs .rsp))
  | .mov dst src => m.setReg dst (m.operand src)
  | .store addr src => m.write (m.regs addr) (m.regs src)
  | .storeGs offset src => m.write (m.gsBase + offset) (m.regs src)
  | .movCr3 src => { m with cr3 := m.regs src }
  | .add dst value => m.setReg dst (m.regs dst + value)
  | .swapgs => { m with gsBase := m.kernelGsBase, kernelGsBase := m.gsBase }
  | .ret => { m.setReg .rsp (m.regs .rsp + 8) with rip := m.mem (m.regs .rsp) }
  | .sysretq =>
      { m with rip := m.regs .rcx, rflags := (m.regs .r11 &&& 0x3C7FD7) ||| 2, mode := .user }

def Machine.run (m : Machine) (code : List Instr) : Machine := code.foldl exec m

@[simp] theorem run_nil (m : Machine) : m.run [] = m := rfl

@[simp] theorem run_cons (m : Machine) (i : Instr) (code : List Instr) :
    m.run (i :: code) = (exec m i).run code := rfl

theorem run_append (m : Machine) (code code' : List Instr) :
    m.run (code ++ code') = (m.run code).run code' := List.foldl_append

theorem run_invariant {α : Sort*} (f : Machine → α) :
    ∀ {code : List Instr} {m : Machine}, (∀ i ∈ code, ∀ m, f (exec m i) = f m) → f (m.run code) = f m
  | [], _, _ => rfl
  | i :: code, m, h => by
      rw [run_cons, run_invariant f fun j hj => h j (List.mem_cons_of_mem i hj)]
      exact h i List.mem_cons_self m

def gsState (m : Machine) : UInt64 × UInt64 × Mode := (m.gsBase, m.kernelGsBase, m.mode)

theorem gsState_exec {i : Instr} (swap : i ≠ .swapgs) (ret : i ≠ .sysretq) (m : Machine) :
    gsState (exec m i) = gsState m := by
  cases i
  case swapgs => exact absurd rfl swap
  case sysretq => exact absurd rfl ret
  all_goals rfl

theorem gsState_run_swapgs {pre post : List Instr} (hpre : ∀ i ∈ pre, i ≠ .swapgs ∧ i ≠ .sysretq)
    (hpost : ∀ i ∈ post, i ≠ .swapgs ∧ i ≠ .sysretq) (m : Machine) :
    gsState (m.run (pre ++ .swapgs :: post)) = (m.kernelGsBase, m.gsBase, m.mode) := by
  have plain : ∀ {code : List Instr}, (∀ i ∈ code, i ≠ .swapgs ∧ i ≠ .sysretq) →
      ∀ m : Machine, gsState (m.run code) = gsState m :=
    fun h _ => run_invariant gsState fun i hi => gsState_exec (h i hi).1 (h i hi).2
  rw [run_append, run_cons, plain hpost]
  have before := plain hpre m
  simp only [gsState, Prod.mk.injEq] at before
  obtain ⟨gs, kgs, mode⟩ := before
  simp only [gsState, exec, gs, kgs, mode]

/-! ## Consecutive quadwords -/

def slot (base : UInt64) (i : Nat) : UInt64 := base + 8 * i.toUInt64

@[simp] theorem slot_zero (base : UInt64) : slot base 0 = base := by
  simp [slot]

theorem slot_toNat_offset (i : Nat) : (8 * i.toUInt64).toNat = 8 * i % 2 ^ 64 := by
  rw [UInt64.toNat_mul, Nat.toUInt64_eq, UInt64.toNat_ofNat']
  have eight : (8 : UInt64).toNat = 8 := rfl
  rw [eight, Nat.mul_mod_mod]

theorem slot_succ (base : UInt64) (i : Nat) : slot base (i + 1) = slot (base + 8) i := by
  apply UInt64.toNat_inj.mp
  have eight : (8 : UInt64).toNat = 8 := rfl
  simp only [slot, UInt64.toNat_add, slot_toNat_offset, eight]
  omega

theorem slot_add_eight (base : UInt64) (i : Nat) : slot base i + 8 = slot base (i + 1) := by
  simp only [slot, Nat.toUInt64_eq, UInt64.ofNat_add]
  grind

theorem slot_slot (base : UInt64) (i j : Nat) : slot (slot base i) j = slot base (i + j) := by
  simp only [slot, Nat.toUInt64_eq, UInt64.ofNat_add]
  grind

theorem slot_inj {base : UInt64} {i j : Nat} (hi : i < 2 ^ 61) (hj : j < 2 ^ 61)
    (h : slot base i = slot base j) : i = j := by
  have same := congrArg UInt64.toNat (add_left_cancel h)
  rw [slot_toNat_offset, slot_toNat_offset] at same
  omega

def storeWords (mem : UInt64 → UInt64) (base : UInt64) : List UInt64 → UInt64 → UInt64
  | [] => mem
  | v :: vs => storeWords (Function.update mem base v) (base + 8) vs

def loadRegs (regs : Reg → UInt64) (mem : UInt64 → UInt64) (base : UInt64) :
    List Reg → Reg → UInt64
  | [] => regs
  | r :: rs => loadRegs (Function.update regs r (mem base)) mem (base + 8) rs

theorem slot_below (sp : UInt64) (n : Nat) : slot (sp - 8 * (n + 1).toUInt64) n = sp - 8 := by
  simp only [slot, Nat.toUInt64_eq, UInt64.ofNat_add]
  grind

theorem below_succ (sp : UInt64) (n : Nat) : sp - 8 - 8 * n.toUInt64 = sp - 8 * (n + 1).toUInt64 := by
  simp only [Nat.toUInt64_eq, UInt64.ofNat_add]
  grind

theorem slot_eq_slot_iff {base : UInt64} {i j : Nat} (hi : i < 2 ^ 61) (hj : j < 2 ^ 61) :
    slot base i = slot base j ↔ i = j :=
  ⟨slot_inj hi hj, fun same => same ▸ rfl⟩

theorem slot_succ_ne_base {base : UInt64} {i : Nat} (hi : i + 1 < 2 ^ 61) :
    base ≠ slot (base + 8) i := by
  rw [← slot_succ]
  intro same
  have zero := @slot_inj base 0 (i + 1) (by omega) hi (by rw [slot_zero]; exact same)
  omega

section Words

variable {mem : UInt64 → UInt64} {base a : UInt64}

theorem storeWords_of_ne : ∀ {vs : List UInt64} {mem : UInt64 → UInt64} {base : UInt64},
    (∀ i < vs.length, a ≠ slot base i) → storeWords mem base vs a = mem a
  | [], _, _, _ => rfl
  | v :: vs, mem, base, outside => by
      rw [storeWords, storeWords_of_ne fun i hi => by
        rw [← slot_succ]
        exact outside (i + 1) (by simp; omega)]
      exact Function.update_of_ne (by simpa using outside 0 (by simp)) _ _

theorem storeWords_slot : ∀ {vs : List UInt64} {mem : UInt64 → UInt64} {base : UInt64} {i : Nat},
    (hi : i < vs.length) → vs.length ≤ 2 ^ 61 → storeWords mem base vs (slot base i) = vs[i]
  | v :: vs, mem, base, 0, _, hlen => by
      rw [storeWords, slot_zero, storeWords_of_ne fun j hj => slot_succ_ne_base (by simp at hlen; omega)]
      simp
  | v :: vs, mem, base, i + 1, hi, hlen => by
      rw [storeWords, slot_succ, storeWords_slot (by simpa using hi) (by simp at hlen; omega)]
      rfl

theorem storeWords_update_comm {v : UInt64} : ∀ {vs : List UInt64} {mem : UInt64 → UInt64}
    {base : UInt64}, (∀ i < vs.length, a ≠ slot base i) →
    storeWords (Function.update mem a v) base vs = Function.update (storeWords mem base vs) a v
  | [], _, _, _ => rfl
  | w :: vs, mem, base, outside => by
      have first : a ≠ base := by simpa using outside 0 (by simp)
      rw [storeWords, storeWords, Function.update_comm first,
        storeWords_update_comm fun i hi => by
          rw [← slot_succ]
          exact outside (i + 1) (by simp; omega)]

theorem storeWords_append : ∀ (vs ws : List UInt64) (mem : UInt64 → UInt64) (base : UInt64),
    storeWords mem base (vs ++ ws) = storeWords (storeWords mem base vs) (slot base vs.length) ws
  | [], _, _, _ => by simp [storeWords]
  | v :: vs, ws, mem, base => by
      rw [List.cons_append, storeWords, storeWords, storeWords_append, List.length_cons, slot_succ]

end Words

/-! ## Pushes and pops -/

def below (sp : UInt64) (n : Nat) : UInt64 := sp - 8 * n.toUInt64

theorem slot_below_self (sp : UInt64) (n : Nat) : slot (below sp n) n = sp := by
  simp only [slot, below]
  grind

theorem slot_below_toNat {sp : UInt64} {n j : Nat} (room : 8 * n ≤ sp.toNat) (hj : j ≤ n) :
    (slot (below sp n) j).toNat = sp.toNat - 8 * n + 8 * j := by
  have bound := UInt64.toNat_lt sp
  have offset : (8 * n.toUInt64).toNat = 8 * n := by
    rw [slot_toNat_offset, Nat.mod_eq_of_lt (by omega)]
  have le : 8 * n.toUInt64 ≤ sp := by
    rw [UInt64.le_iff_toNat_le, offset]
    exact room
  rw [slot, below, UInt64.toNat_add, UInt64.toNat_sub_of_le _ _ le, offset, slot_toNat_offset]
  omega

theorem run_pushes : ∀ (srcs : List Operand) (m : Machine), Operand.reg .rsp ∉ srcs →
    (∀ offset, Operand.gs offset ∈ srcs → ∀ i < srcs.length,
      m.gsBase + offset ≠ slot (below (m.regs .rsp) srcs.length) i) →
    srcs.length ≤ 2 ^ 61 →
    m.run (srcs.map .push) =
      { m with
        regs := Function.update m.regs .rsp (below (m.regs .rsp) srcs.length)
        mem := storeWords m.mem (below (m.regs .rsp) srcs.length) (srcs.reverse.map m.operand) }
  | [], m, _, _, _ => by
      simp [below, storeWords]
  | src :: srcs, m, hrsp, hgs, hlen => by
      simp only [List.length_cons] at hgs hlen ⊢
      have top : m.regs .rsp - 8 = slot (below (m.regs .rsp) (srcs.length + 1)) srcs.length :=
        (slot_below _ _).symm
      -- the first push, then the rest from `rsp - 8`
      have rest := run_pushes srcs (exec m (.push src)) (fun h => hrsp (List.mem_cons_of_mem _ h))
        (fun offset h i hi => by
          simp only [exec, Machine.gsBase_write, Machine.gsBase_setReg, Machine.regs_write,
            Machine.regs_setReg, Function.update_self, below, below_succ]
          exact hgs offset (List.mem_cons_of_mem _ h) i (by omega))
        (by omega)
      -- the later operands read as before the first push
      have same : srcs.reverse.map (exec m (.push src)).operand = srcs.reverse.map m.operand := by
        apply List.map_congr_left
        intro op hop
        rw [List.mem_reverse] at hop
        cases op with
        | reg r =>
            have hr : r ≠ .rsp := fun e => hrsp (e ▸ List.mem_cons_of_mem _ hop)
            simp [exec, Machine.operand, Function.update_of_ne hr]
        | imm value => rfl
        | gs offset =>
            have off := hgs offset (List.mem_cons_of_mem _ hop) srcs.length (by omega)
            rw [← top] at off
            simp [exec, Machine.operand, Function.update_of_ne off]
      have free : ∀ i < (srcs.reverse.map m.operand).length,
          m.regs .rsp - 8 ≠ slot (below (m.regs .rsp) (srcs.length + 1)) i := by
        intro i hi hit
        rw [top] at hit
        simp only [List.length_map, List.length_reverse] at hi
        have := slot_inj (by omega) (by omega) hit
        omega
      have lower : below (m.regs .rsp - 8) srcs.length = below (m.regs .rsp) (srcs.length + 1) :=
        below_succ _ _
      rw [List.map_cons, run_cons, rest, same]
      simp only [exec, Machine.regs_write, Machine.regs_setReg, Function.update_self,
        Function.update_idem, Machine.mem_write, Machine.mem_setReg, lower]
      congr 1
      rw [List.reverse_cons, List.map_append, storeWords_append, List.length_map,
        List.length_reverse, ← top, storeWords_update_comm free]
      rfl

section Loads

variable {mem mem' : UInt64 → UInt64} {r : Reg} {v : UInt64}

@[simp] theorem loadRegs_nil (regs : Reg → UInt64) (base : UInt64) : loadRegs regs mem base [] = regs :=
  rfl

theorem loadRegs_cons_slot (regs : Reg → UInt64) (base : UInt64) (rs : List Reg) :
    loadRegs regs mem base (r :: rs) = loadRegs (Function.update regs r (mem base)) mem (slot base 1) rs := by
  rw [loadRegs]
  simp [slot]

theorem loadRegs_update_of_notMem : ∀ {rs : List Reg} {regs : Reg → UInt64} {base : UInt64},
    r ∉ rs → loadRegs (Function.update regs r v) mem base rs =
      Function.update (loadRegs regs mem base rs) r v
  | [], _, _, _ => rfl
  | r' :: rs, regs, base, hr => by
      have hne : r ≠ r' := fun e => hr (e ▸ List.mem_cons_self)
      rw [loadRegs, loadRegs, Function.update_comm hne,
        loadRegs_update_of_notMem fun h => hr (List.mem_cons_of_mem _ h)]

theorem loadRegs_of_notMem : ∀ {rs : List Reg} {regs : Reg → UInt64} {base : UInt64},
    r ∉ rs → loadRegs regs mem base rs r = regs r
  | [], _, _, _ => rfl
  | r' :: rs, regs, base, hr => by
      have hne : r ≠ r' := fun e => hr (e ▸ List.mem_cons_self)
      rw [loadRegs, loadRegs_of_notMem fun h => hr (List.mem_cons_of_mem _ h),
        Function.update_of_ne hne]

theorem loadRegs_congr : ∀ {rs : List Reg} {regs : Reg → UInt64} {base : UInt64},
    (∀ i < rs.length, mem (slot base i) = mem' (slot base i)) →
    loadRegs regs mem base rs = loadRegs regs mem' base rs
  | [], _, _, _ => rfl
  | r :: rs, regs, base, agree => by
      have first : mem base = mem' base := by simpa using agree 0 (by simp)
      rw [loadRegs, loadRegs, first, loadRegs_congr fun i hi => by
        rw [← slot_succ]
        exact agree (i + 1) (by simp; omega)]

theorem loadRegs_storeWords (f : Reg → UInt64) : ∀ {rs : List Reg} {regs : Reg → UInt64}
    {mem : UInt64 → UInt64} {base : UInt64}, rs.length ≤ 2 ^ 61 →
    loadRegs regs (storeWords mem base (rs.map f)) base rs =
      fun r => if r ∈ rs then f r else regs r
  | [], _, _, _, _ => by
      funext r
      simp [loadRegs]
  | r :: rs, regs, mem, base, hlen => by
      have hn : rs.length + 1 ≤ 2 ^ 61 := by simpa using hlen
      have first : storeWords (Function.update mem base (f r)) (base + 8) (rs.map f) base = f r := by
        rw [storeWords_of_ne fun i hi => slot_succ_ne_base (by simp at hi; omega)]
        simp
      rw [List.map_cons, storeWords, loadRegs, first, loadRegs_storeWords f (by omega)]
      funext r'
      by_cases here : r' = r
      · subst here
        simp
      · by_cases later : r' ∈ rs
        · simp [later]
        · simp [here, later]

end Loads

theorem run_pops : ∀ (rs : List Reg) (m : Machine), Reg.rsp ∉ rs →
    m.run (rs.map .pop) =
      { m with
        regs := Function.update (loadRegs m.regs m.mem (m.regs .rsp) rs) .rsp
          (slot (m.regs .rsp) rs.length) }
  | [], m, _ => by
      simp [loadRegs]
  | r :: rs, m, hrsp => by
      have hr : r ≠ .rsp := fun e => hrsp (e ▸ List.mem_cons_self)
      have rest := run_pops rs (exec m (.pop r)) fun h => hrsp (List.mem_cons_of_mem _ h)
      rw [List.map_cons, run_cons, rest]
      simp only [exec, Machine.regs_setReg, Machine.mem_setReg, Function.update_of_ne hr.symm,
        Function.update_self]
      congr 2
      rw [Function.update_comm hr.symm, loadRegs_update_of_notMem fun h => hrsp (List.mem_cons_of_mem _ h),
        Function.update_idem, loadRegs, List.length_cons, slot_succ]

end X86
