import ColumnSpec.Proofs.Run.Shift
/-!
# Resolving function names

A call goes to the run's own functions, then the built-in ones, then those from outside;
the first two never pass a name of theirs on (`callFunction_resolution`).
-/
namespace ColumnSpec

namespace Builtin

def names : List String :=
  ["abs", "pow", "sqrt", "tobin", "tobine", "frombin", "fmt", "len", "length", "substr", "left",
   "right", "center", "centre", "pos", "rpos", "includes", "includesany", "includesall",
   "rmatch", "rsearch", "rreplace", "d2tf", "tf2d", "version"]

theorem isSome_callWith_iff (L : Libraries) (name : String) (args : List Value) :
    (callWith L name args).isSome ↔ name ∈ names := by
  unfold callWith
  split <;> simp_all [names]

theorem isSome_call?_iff (name : String) (args : List Value) :
    (call? name args).isSome ↔ name ∈ names :=
  isSome_callWith_iff _ name args

end Builtin

namespace Script

/-- The names a run answers itself, before it looks for functions from outside: the
functions of the run position and of the record, `conf`, and the built-in functions. -/
def nativeFunctions : List String := "conf" :: recordFunctions ++ Builtin.names

variable {α β : Type} {env : Setting}

/-- `m` answers: a run of it fails or gives a value, never `none`. -/
def Answers (m : Run (Option α)) : Prop := ∀ s s', m.exec s ≠ (.ok none, s')

theorem Answers.bind {x : Run β} {f : β → Run (Option α)} (hf : ∀ b, Answers (f b)) :
    Answers (x >>= f) := by
  intro s s' h
  rw [Eval.exec_bind] at h
  rcases hx : x.exec s with ⟨e | b, s₁⟩
  · rw [hx] at h
    cases h
  · rw [hx] at h
    exact hf b s₁ s' h

theorem answers_some (v : α) : Answers (pure (some v) : Run (Option α)) := by
  intro s s' h
  cases h

theorem answers_get_bind {k : RunState → Run (Option α)} (h : ∀ s, Answers (k s)) :
    Answers (get >>= k) :=
  Answers.bind h

theorem positionFunction_answers {name : String} (h : name ∈ positionFunctions)
    (args : List Value) : Answers (positionFunction name args) := by
  simp only [positionFunctions, List.mem_cons, List.not_mem_nil, or_false] at h
  unfold positionFunction
  refine answers_get_bind fun s => ?_
  rcases h with rfl | rfl | rfl | rfl
  all_goals exact Answers.bind fun _ => answers_some _

theorem recordFunction_answers {name : String} (h : name ∈ "conf" :: recordFunctions)
    (hp : name ∉ positionFunctions) (args : List Value) :
    Answers (recordFunction env name args) := by
  unfold recordFunction
  refine answers_get_bind fun s => ?_
  -- past the choice of separator, one case per name; the position functions fall through
  split
  split
  all_goals try (simp_all [recordFunctions, positionFunctions]; done)
  all_goals repeat
    first
    | exact answers_some _
    | refine Answers.bind fun _ => ?_
    | split

theorem recordFunction_other {name : String} (h : name ∉ "conf" :: recordFunctions)
    (args : List Value) (s : RunState) : (recordFunction env name args).exec s = (.ok none, s) := by
  simp only [recordFunctions, List.mem_cons, List.not_mem_nil, or_false, not_or] at h
  unfold recordFunction
  simp only [Eval.exec_bind, Eval.exec_get]
  split
  all_goals first
    | rfl
    | (exfalso; simp_all)

theorem recordFunction_external (X : Option External) (name : String) (args : List Value) :
    recordFunction { env with external := X } name args = recordFunction env name args := rfl

theorem callFunction_native {name : String} (h : name ∈ nativeFunctions) (X : Option External)
    (args : List Value) (s : RunState) :
    (callFunction { env with external := X } name args).exec s =
      (callFunction { env with external := none } name args).exec s := by
  unfold callFunction
  simp only [recordFunction_external]
  rw [Eval.exec_bind, Eval.exec_bind]
  rcases hp : (positionFunction name args).exec s with ⟨e | _ | v, s₁⟩
  · rfl
  · have hp' : name ∉ positionFunctions := fun hm => positionFunction_answers hm args s s₁ hp
    dsimp only
    rw [Eval.exec_bind, Eval.exec_bind]
    rcases hr : (recordFunction env name args).exec s₁ with ⟨e | _ | v, s₂⟩
    · rfl
    · -- neither the run nor the record knew the name: it is a built-in one
      have hr' : name ∉ "conf" :: recordFunctions :=
        fun hm => recordFunction_answers hm hp' args s₁ s₂ hr
      have hb : name ∈ Builtin.names := by
        simp only [nativeFunctions, List.cons_append, List.mem_cons, List.mem_append] at h hr'
        simp only [not_or] at hr'
        rcases h with h | h | h
        · exact absurd h hr'.1
        · exact absurd h hr'.2
        · exact h
      obtain ⟨r, hcall⟩ := Option.isSome_iff_exists.mp ((Builtin.isSome_call?_iff name args).mpr hb)
      dsimp only
      rw [hcall]
    · rfl
  · rfl

theorem callFunction_other {name : String} (h : name ∉ nativeFunctions) (args : List Value)
    (s : RunState) :
    (callFunction env name args).exec s =
      (env.external.elim (.error (.unknownFunction name)) (·.call name args), s) := by
  simp only [nativeFunctions, List.cons_append, List.mem_cons, List.mem_append, not_or] at h
  obtain ⟨hconf, hrec, hb⟩ := h
  have hp : name ∉ positionFunctions := fun hm => hrec (by
    simp only [positionFunctions, List.mem_cons, List.not_mem_nil, or_false] at hm
    rcases hm with rfl | rfl | rfl | rfl <;> simp [recordFunctions])
  have hr : name ∉ "conf" :: recordFunctions := by
    simp only [List.mem_cons, not_or]
    exact ⟨hconf, hrec⟩
  have hcall : Builtin.call? name args = none := by
    rw [← Option.not_isSome_iff_eq_none, Builtin.isSome_call?_iff]
    exact hb
  unfold callFunction
  rw [Eval.exec_bind, positionFunction_other hp]
  dsimp only
  rw [Eval.exec_bind, recordFunction_other hr]
  dsimp only
  rw [hcall]
  rcases env.external with _ | X <;> rfl

/-- Functions are resolved natively first: for a name the run knows itself (a function of
the run position or of the record, `conf`, or a built-in function), any functions from
outside, a failed load among them, leave the answer and the state as a run without them has
them; any other name goes to the functions from outside with its arguments unchanged, and
is an unknown function when there are none. -/
theorem callFunction_resolution (env : Setting) (name : String) (args : List Value) :
    (name ∈ nativeFunctions → ∀ (X : Option External) (s : RunState),
      (callFunction { env with external := X } name args).exec s =
        (callFunction { env with external := none } name args).exec s) ∧
    (name ∉ nativeFunctions → ∀ s : RunState,
      (callFunction env name args).exec s =
        (env.external.elim (.error (.unknownFunction name)) (·.call name args), s)) :=
  ⟨fun h X s => callFunction_native h X args s, fun h s => callFunction_other h args s⟩

/-- A failed load leaves `len` to the built-in function, and a name nobody defines reaches the
failed load, which reports it. -/
theorem callFunction_resolution_failedLoad :
    "len" ∈ nativeFunctions ∧
    (callFunction { external := some (.failed "not found") } "len" [.str "ab"]).exec
        { streams := {}, outputs := {} } =
      (callFunction {} "len" [.str "ab"]).exec { streams := {}, outputs := {} } ∧
    "triple" ∉ nativeFunctions ∧
    (callFunction { external := some (.failed "not found") } "triple" [.int 1]).exec
        { streams := {}, outputs := {} } =
      (.error (External.loadError "not found"), { streams := {}, outputs := {} }) := by
  have hlen : "len" ∈ nativeFunctions := by simp [nativeFunctions, Builtin.names]
  have htriple : "triple" ∉ nativeFunctions := by
    simp [nativeFunctions, recordFunctions, Builtin.names]
  refine ⟨hlen, (callFunction_resolution {} "len" [.str "ab"]).1 hlen _ _, htriple, ?_⟩
  rw [(callFunction_resolution { external := some (.failed "not found") } "triple" [.int 1]).2
    htriple _]
  rfl

end Script

end ColumnSpec
