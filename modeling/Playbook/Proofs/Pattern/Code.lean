import Playbook.Proofs.Pattern.Search

/-!
# Playbook.Proofs.Pattern.Code

The layout of the code of an expression. The length of the code does not depend on where it
stands, and no instruction goes beyond the end of it, so that a thread never leaves the program
(`contained_ofExpr`).
-/

namespace Playbook.Pattern.Program

variable {code : Emitter} {greedy : Bool} {base exit limit : Nat} {instr : Instr}
  {first rest : List Instr}

/-! ### Length -/

/-- The length of the code is the same wherever it stands. -/
def Rigid (code : Emitter) : Prop := ∀ base base', (code base).length = (code base').length

theorem Rigid.copies (h : Rigid code) (n : Nat) : Rigid (copies code n) := by
  induction n with
  | zero => exact fun _ _ => rfl
  | succ n ih =>
      intro base base'
      rw [Program.copies, Program.copies, List.length_append, List.length_append, h base base']
      exact congrArg _ (ih _ _)

theorem Rigid.length_upTo (h : Rigid code) (greedy : Bool) (exit n base base' : Nat) :
    (upTo code greedy exit n base).length = n * ((code base').length + 1) := by
  induction n generalizing base with
  | zero => simp [upTo]
  | succ n ih =>
      rw [upTo, List.cons_append, List.length_cons, List.length_append, ih, h (base + 1) base',
        Nat.succ_mul]
      omega

theorem Rigid.onceOrMore (h : Rigid code) (greedy : Bool) : Rigid (onceOrMore code greedy) := by
  intro base base'
  simp [Program.onceOrMore, h base base']

theorem Rigid.optional (h : Rigid code) (greedy : Bool) : Rigid (optional code greedy) := by
  intro base base'
  simp [Program.optional, h (base + 1) (base' + 1)]

theorem Rigid.anyNumber (h : Rigid code) (greedy : Bool) : Rigid (anyNumber code greedy) := by
  intro base base'
  simp [Program.anyNumber, h (base + 1) (base' + 1)]

theorem Rigid.times (h : Rigid code) (nullable : Bool) (min : Nat) (max : Option Nat)
    (greedy : Bool) : Rigid (times code nullable min max greedy) := by
  intro base base'
  cases max with
  | none =>
      cases min with
      | zero =>
          cases nullable with
          | false => exact h.anyNumber greedy base base'
          | true => exact (h.onceOrMore greedy).optional greedy base base'
      | succ n =>
          dsimp only [Program.times]
          rw [List.length_append, List.length_append, h.copies n base base']
          exact congrArg _ (h.onceOrMore greedy _ _)
  | some max =>
      dsimp only [Program.times]
      rw [List.length_append, List.length_append, h.copies min base base',
        h.length_upTo _ _ _ _ base, h.length_upTo _ _ _ _ base]

theorem rigid_emit (e : Expr) : Rigid (emit e) := by
  induction e with
  | empty => exact fun _ _ => rfl
  | char c => exact fun _ _ => rfl
  | set s => exact fun _ _ => rfl
  | assertion a => exact fun _ _ => rfl
  | cat a b iha ihb =>
      intro base base'
      rw [emit, emit, List.length_append, List.length_append, iha base base']
      exact congrArg _ (ihb _ _)
  | alt a b iha ihb =>
      intro base base'
      simp only [emit, List.cons_append, List.length_cons, List.length_append]
      rw [iha (base + 1) (base' + 1), ihb _ (base' + (emit a (base' + 1)).length + 2)]
  | times min max greedy e ih =>
      intro base base'
      rw [emit, emit]
      exact ih.times _ _ _ _ base base'
  | group i name e ih =>
      intro base base'
      simp only [emit, List.cons_append, List.length_cons, List.length_append]
      rw [ih (base + 1) (base' + 1)]

/-! ### Targets -/

/-- The instructions go no further than an address. -/
def Below (limit : Nat) (code : List Instr) : Prop :=
  ∀ instr ∈ code, ∀ a ∈ instr.targets, a ≤ limit

@[simp] theorem below_nil : Below limit [] := nofun

@[simp] theorem below_cons :
    Below limit (instr :: rest) ↔ (∀ a ∈ instr.targets, a ≤ limit) ∧ Below limit rest :=
  List.forall_mem_cons

@[simp] theorem below_append : Below limit (first ++ rest) ↔ Below limit first ∧ Below limit rest :=
  List.forall_mem_append

theorem Below.mono {limit' : Nat} (h : Below limit first) (hle : limit ≤ limit') :
    Below limit' first :=
  fun instr hinstr a ha => (h instr hinstr a ha).trans hle

/-- The code goes no further than its end. -/
def Tight (code : Emitter) : Prop := ∀ base, Below (base + (code base).length) (code base)

theorem targets_branch {inside outside : Nat} (hinside : inside ≤ limit)
    (houtside : outside ≤ limit) :
    ∀ a ∈ (Instr.branch greedy inside outside).targets, a ≤ limit := by
  cases greedy <;> simp [Instr.branch, Instr.targets, hinside, houtside]

theorem Tight.copies (h : Tight code) (n : Nat) : Tight (copies code n) := by
  induction n with
  | zero => exact fun _ => below_nil
  | succ n ih =>
      intro base
      rw [Program.copies, below_append, List.length_append]
      exact ⟨(h base).mono (by omega), (ih _).mono (by omega)⟩

theorem Tight.upTo (h : Tight code) (n : Nat)
    (hexit : exit = base + (upTo code greedy exit n base).length) :
    Below exit (upTo code greedy exit n base) := by
  induction n generalizing base with
  | zero => exact below_nil
  | succ n ih =>
      rw [Program.upTo, List.cons_append, List.length_cons, List.length_append] at hexit
      rw [Program.upTo, List.cons_append, below_cons, below_append]
      exact ⟨targets_branch (by omega) (by omega), (h _).mono (by omega), ih (by omega)⟩

theorem Tight.onceOrMore (h : Tight code) (greedy : Bool) : Tight (onceOrMore code greedy) := by
  intro base
  simp only [Program.onceOrMore, below_append, below_cons, List.length_append, List.length_cons,
    List.length_nil]
  exact ⟨(h base).mono (by omega), targets_branch (by omega) (by omega), below_nil⟩

theorem Tight.optional (h : Tight code) (greedy : Bool) : Tight (optional code greedy) := by
  intro base
  simp only [Program.optional, below_cons, List.length_cons]
  exact ⟨targets_branch (by omega) (by omega), (h _).mono (by omega)⟩

theorem Tight.anyNumber (h : Tight code) (greedy : Bool) : Tight (anyNumber code greedy) := by
  intro base
  simp only [Program.anyNumber, below_append, below_cons, List.cons_append, List.length_append,
    List.length_cons, List.length_nil]
  refine ⟨targets_branch (by omega) (by omega), (h _).mono (by omega), ?_, below_nil⟩
  simp [Instr.targets]

theorem Tight.times (h : Tight code) (hrigid : Rigid code) (nullable : Bool) (min : Nat)
    (max : Option Nat) (greedy : Bool) : Tight (times code nullable min max greedy) := by
  intro base
  cases max with
  | none =>
      cases min with
      | zero =>
          cases nullable with
          | false => exact h.anyNumber greedy base
          | true => exact (h.onceOrMore greedy).optional greedy base
      | succ n =>
          dsimp only [Program.times]
          rw [below_append, List.length_append]
          exact ⟨(h.copies n base).mono (by omega), (h.onceOrMore greedy _).mono (by omega)⟩
  | some max =>
      dsimp only [Program.times]
      rw [below_append, List.length_append]
      refine ⟨(h.copies min base).mono (by omega), (h.upTo _ ?_).mono ?_⟩
      · rw [hrigid.length_upTo]
      · rw [hrigid.length_upTo _ _ _ _ base, Nat.add_assoc]

theorem tight_emit (e : Expr) : Tight (emit e) := by
  induction e with
  | empty => exact fun _ => below_nil
  | char c => exact fun base => by simp [emit, Instr.targets]
  | set s => exact fun base => by simp [emit, Instr.targets]
  | assertion a => exact fun base => by simp [emit, Instr.targets]
  | cat a b iha ihb =>
      intro base
      rw [emit, below_append, List.length_append]
      exact ⟨(iha base).mono (by omega), (ihb _).mono (by omega)⟩
  | alt a b iha ihb =>
      intro base
      simp only [emit, List.cons_append, below_cons, below_append, List.length_cons,
        List.length_append]
      refine ⟨?_, (iha _).mono (by omega), ?_, (ihb _).mono (by omega)⟩
      · simp [Instr.targets]
        omega
      · simp [Instr.targets]
        omega
  | times min max greedy e ih =>
      intro base
      rw [emit]
      exact ih.times (rigid_emit e) _ _ _ _ base
  | group i name e ih =>
      intro base
      simp only [emit, List.cons_append, below_cons, below_append, List.length_cons,
        List.length_append]
      exact ⟨by simp [Instr.targets], (ih _).mono (by omega), by simp [Instr.targets], below_nil⟩

/-- No thread of the machine for an expression leaves its code. -/
theorem contained_ofExpr (e : Expr) : (ofExpr e).Contained := by
  intro instr hinstr a ha
  rw [ofExpr, List.mem_toArray, List.mem_append, List.mem_singleton] at hinstr
  rw [ofExpr, List.size_toArray, List.length_append]
  rcases hinstr with hinstr | rfl
  · have hle := tight_emit e 0 instr hinstr a ha
    omega
  · cases ha

end Playbook.Pattern.Program
