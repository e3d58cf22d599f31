import SecureKeypad.Library.Machine

/-!
# Code That Calls Back into Its Host

A method of an object may call the host synchronously in the middle of its work, and the host may
call methods of the same object before it returns. `Res` is what such a method has come to: it has
returned, it has thrown, or it waits in a callback and will go on from whatever state the host
leaves it. A `World` is the object with the methods that wait, the innermost first.

## Main definitions

- `Code`: a method, with the usual sequencing, exceptions and callbacks
- `Res.Guar`: each stretch between two callbacks keeps a relation, whatever the host does
- `Res.Ends`: so does it, and what the method returns is known
- `Code.settle`: what a method comes to if the host answers every callback and calls nothing else
- `Code.Returns`: if so, the method returns, and keeps a relation
- `Code.play`: what it comes to if the host acts on the object, `Code.Leaves`: what it leaves alone
- `World`, `step`: issued methods and returning callbacks, in any nesting

## Main rules

- `guar_bind`, `guar_callback`, `guar_attempt`: how `Guar` follows the code
- `Res.Ends.bind`: the same for what returns something known, behind which more may be done
- `run_guar`: what every method keeps, every run keeps
-/

namespace Callback

/-- What a method has come to. `κ` are the callbacks, `ρ` what a callback comes back with, `ε` the
    exceptions. -/
inductive Res (σ κ ε ρ α : Type) where
  | done (a : α) (s : σ)
  | thrown (e : ε) (s : σ)
  | call (callback : κ) (s : σ) (resume : ρ → σ → Res σ κ ε ρ α)

/-- A method of an object with state `σ`. -/
def Code (σ κ ε ρ α : Type) : Type := σ → Res σ κ ε ρ α

variable {σ κ ε ρ α β : Type}

/-! ## Sequencing -/

def Res.bind : Res σ κ ε ρ α → (α → Code σ κ ε ρ β) → Res σ κ ε ρ β
  | .done a s, f => f a s
  | .thrown e s, _ => .thrown e s
  | .call c s resume, f => .call c s fun r s' => (resume r s').bind f

instance : Monad (Code σ κ ε ρ) where
  pure a s := .done a s
  bind m f s := (m s).bind f

theorem Res.bind_assoc {γ : Type} (r : Res σ κ ε ρ α) (f : α → Code σ κ ε ρ β)
    (g : β → Code σ κ ε ρ γ) : (r.bind f).bind g = r.bind fun a s => (f a s).bind g := by
  induction r with
  | done a s => rfl
  | thrown e s => rfl
  | call c s resume ih =>
    have hresume : (fun r s' => ((resume r s').bind f).bind g) =
        fun r s' => (resume r s').bind fun a s => (f a s).bind g := by
      funext r s'
      exact ih r s'
    change Res.call c s _ = Res.call c s _
    rw [hresume]

theorem Code.bind_assoc {γ : Type} (m : Code σ κ ε ρ α) (f : α → Code σ κ ε ρ β)
    (g : β → Code σ κ ε ρ γ) : m >>= f >>= g = m >>= fun a => f a >>= g := by
  funext s
  exact Res.bind_assoc (m s) f g

namespace Code

/-- The state. -/
def get : Code σ κ ε ρ σ := fun s => .done s s

/-- A change of the state. -/
def modify (f : σ → σ) : Code σ κ ε ρ Unit := fun s => .done () (f s)

def throw (e : ε) : Code σ κ ε ρ α := fun s => .thrown e s

/-- The host runs, and comes back. -/
def callback (c : κ) : Code σ κ ε ρ ρ := fun s => .call c s fun r s' => .done r s'

theorem get_bind (f : σ → Code σ κ ε ρ β) (s : σ) : (get >>= f) s = f s s := rfl

theorem modify_bind (g : σ → σ) (f : Unit → Code σ κ ε ρ β) (s : σ) :
    (modify g >>= f) s = f () (g s) := rfl

end Code

/-- `try`: the handler takes what the code throws, before or after its callbacks. -/
def Res.attempt : Res σ κ ε ρ α → (ε → Code σ κ ε ρ α) → Res σ κ ε ρ α
  | .done a s, _ => .done a s
  | .thrown e s, handler => handler e s
  | .call c s resume, handler => .call c s fun r s' => (resume r s').attempt handler

def Code.attempt (m : Code σ κ ε ρ α) (handler : ε → Code σ κ ε ρ α) : Code σ κ ε ρ α :=
  fun s => (m s).attempt handler

/-! ## Guarantees -/

/-- From `pre`, each stretch up to a callback keeps `G`, a last stretch that returns keeps `D` and
    one that throws keeps `T`. Nothing is assumed of the state a callback leaves. -/
def Res.Runs (G : σ → σ → Prop) (D : α → σ → σ → Prop) (T : σ → σ → Prop) :
    σ → Res σ κ ε ρ α → Prop
  | pre, .done a s => D a pre s
  | pre, .thrown _ s => T pre s
  | pre, .call _ s resume => G pre s ∧ ∀ r s', (resume r s').Runs G D T s'

/-- Each stretch keeps `G`. -/
def Res.Guar (G : σ → σ → Prop) : σ → Res σ κ ε ρ α → Prop := Res.Runs G (fun _ => G) G

/-- Wherever it starts, each stretch of the method keeps `G`. -/
def Code.Guar (G : σ → σ → Prop) (m : Code σ κ ε ρ α) : Prop := ∀ s, (m s).Guar G s

/-- Each stretch keeps `G`, and the method returns only what meets `P`. -/
def Res.Ends (G : σ → σ → Prop) (P : α → Prop) : σ → Res σ κ ε ρ α → Prop :=
  Res.Runs G (fun a s t => G s t ∧ P a) G

/-- The state at the first callback, or at the end if there is none. -/
def Res.state : Res σ κ ε ρ α → σ
  | .done _ s => s
  | .thrown _ s => s
  | .call _ s _ => s

section Rules

variable {G : σ → σ → Prop} {D : β → σ → σ → Prop} {T : σ → σ → Prop}

/-- What a method does behind another one that keeps `G` and returns only what meets `P`. -/
theorem Res.Ends.bind (htrans : ∀ a b c, G a b → G b c → G a c)
    (hD : ∀ x a b c, G a b → D x b c → D x a c) (hT : ∀ a b c, G a b → T b c → T a c)
    (hGT : ∀ a b, G a b → T a b) {P : α → Prop} {f : α → Code σ κ ε ρ β}
    (hf : ∀ a, P a → ∀ s, (f a s).Runs G D T s) :
    ∀ {r : Res σ κ ε ρ α} {pre : σ}, r.Ends G P pre → (r.bind f).Runs G D T pre := by
  -- A stretch that ends the first method and one that begins the second are one stretch.
  have hjoin : ∀ (r : Res σ κ ε ρ β) (pre s : σ), G pre s → r.Runs G D T s → r.Runs G D T pre := by
    intro r pre s hG hr
    cases r with
    | done a t => exact hD _ _ _ _ hG hr
    | thrown e t => exact hT _ _ _ hG hr
    | call c t resume => exact ⟨htrans _ _ _ hG hr.1, hr.2⟩
  intro r
  induction r with
  | done a s =>
    intro pre hr
    exact hjoin _ _ _ hr.1 (hf a hr.2 s)
  | thrown e s =>
    intro pre hr
    exact hGT _ _ hr
  | call c s resume ih =>
    intro pre hr
    exact ⟨hr.1, fun r s' => ih r s' (hr.2 r s')⟩

/-- Weaker relations are kept as well. -/
theorem Res.Runs.mono {G' : σ → σ → Prop} {D' : β → σ → σ → Prop} {T' : σ → σ → Prop}
    (hG : ∀ a b, G a b → G' a b) (hD : ∀ x a b, D x a b → D' x a b) (hT : ∀ a b, T a b → T' a b) :
    ∀ {r : Res σ κ ε ρ β} {pre : σ}, r.Runs G D T pre → r.Runs G' D' T' pre := by
  intro r
  induction r with
  | done a s => exact fun hr => hD _ _ _ hr
  | thrown e s => exact fun hr => hT _ _ hr
  | call c s resume ih => exact fun hr => ⟨hG _ _ hr.1, fun r s' => ih r s' (hr.2 r s')⟩

theorem Res.Guar.ends {r : Res σ κ ε ρ α} {pre : σ} (hr : r.Guar G pre) :
    r.Ends G (fun _ => True) pre :=
  Res.Runs.mono (fun _ _ h => h) (fun _ _ _ h => ⟨h, trivial⟩) (fun _ _ h => h) hr

theorem Res.Ends.mono {G' : σ → σ → Prop} {P : α → Prop} {r : Res σ κ ε ρ α} {pre : σ}
    (hr : r.Ends G P pre) (h : ∀ a b, G a b → G' a b) : r.Ends G' P pre :=
  Res.Runs.mono h (fun _ a b hP => ⟨h a b hP.1, hP.2⟩) h hr

theorem Res.Guar.state {r : Res σ κ ε ρ α} {pre : σ} (hr : r.Guar G pre) : G pre r.state := by
  cases r with
  | done a s => exact hr
  | thrown e s => exact hr
  | call c s resume => exact hr.1

theorem Code.Guar.mono {G' : σ → σ → Prop} {m : Code σ κ ε ρ α} (hm : m.Guar G)
    (h : ∀ a b, G a b → G' a b) : m.Guar G' :=
  fun s => Res.Runs.mono h (fun _ => h) h (hm s)

theorem guar_modify {f : σ → σ} (h : ∀ s, G s (f s)) : (Code.modify f : Code σ κ ε ρ Unit).Guar G :=
  fun s => h s

theorem guar_ite {p : Prop} [Decidable p] {m n : Code σ κ ε ρ α} (hm : m.Guar G) (hn : n.Guar G) :
    (if p then m else n).Guar G := by
  split
  · exact hm
  · exact hn

variable (G)

/-- `G` relates a state to itself and is transitive. -/
class Keeping : Prop where
  refl : ∀ s, G s s
  trans : ∀ a b c, G a b → G b c → G a c

variable {G} [Keeping G]

/-- What comes before the first stretch belongs to it. -/
theorem Res.Guar.before {pre s : σ} {r : Res σ κ ε ρ α} (hr : r.Guar G s) (h : G pre s) :
    r.Guar G pre := by
  cases r with
  | done a t => exact Keeping.trans _ _ _ h hr
  | thrown e t => exact Keeping.trans _ _ _ h hr
  | call c t resume => exact ⟨Keeping.trans _ _ _ h hr.1, hr.2⟩

theorem Res.Ends.before {P : α → Prop} {pre s : σ} {r : Res σ κ ε ρ α} (hr : r.Ends G P s)
    (h : G pre s) : r.Ends G P pre := by
  cases r with
  | done a t => exact ⟨Keeping.trans _ _ _ h hr.1, hr.2⟩
  | thrown e t => exact Keeping.trans _ _ _ h hr
  | call c t resume => exact ⟨Keeping.trans _ _ _ h hr.1, hr.2⟩

/-- Behind what meets `P` the method keeps `G`. -/
theorem Res.Ends.guar_bind {P : α → Prop} {pre : σ} {r : Res σ κ ε ρ α} {f : α → Code σ κ ε ρ β}
    (hr : r.Ends G P pre) (hf : ∀ a, P a → (f a).Guar G) : (r.bind f).Guar G pre :=
  hr.bind Keeping.trans (fun _ => Keeping.trans) Keeping.trans (fun _ _ h => h) hf

/-- Behind what meets `P` the method returns only what meets `Q`. -/
theorem Res.Ends.ends_bind {P : α → Prop} {Q : β → Prop} {pre : σ} {r : Res σ κ ε ρ α}
    {f : α → Code σ κ ε ρ β} (hr : r.Ends G P pre)
    (hf : ∀ a, P a → ∀ s, (f a s).Ends G Q s) : (r.bind f).Ends G Q pre :=
  hr.bind Keeping.trans (fun _ _ _ _ h h' => ⟨Keeping.trans _ _ _ h h'.1, h'.2⟩) Keeping.trans
    (fun _ _ h => h) hf

theorem Res.guar_bind {pre : σ} {r : Res σ κ ε ρ α} {f : α → Code σ κ ε ρ β} (hr : r.Guar G pre)
    (hf : ∀ a, (f a).Guar G) : (r.bind f).Guar G pre :=
  hr.ends.guar_bind fun a _ => hf a

theorem guar_pure (a : α) : (pure a : Code σ κ ε ρ α).Guar G := fun s => Keeping.refl s

theorem guar_bind {m : Code σ κ ε ρ α} {f : α → Code σ κ ε ρ β} (hm : m.Guar G)
    (hf : ∀ a, (f a).Guar G) : (m >>= f).Guar G :=
  fun s => Res.guar_bind (hm s) hf

theorem guar_get : (Code.get : Code σ κ ε ρ σ).Guar G := fun s => Keeping.refl s

theorem guar_throw (e : ε) : (Code.throw e : Code σ κ ε ρ α).Guar G := fun s => Keeping.refl s

theorem guar_callback (c : κ) : (Code.callback c : Code σ κ ε ρ ρ).Guar G :=
  fun s => ⟨Keeping.refl s, fun _ s' => Keeping.refl s'⟩

theorem guar_attempt {m : Code σ κ ε ρ α} {handler : ε → Code σ κ ε ρ α} (hm : m.Guar G)
    (hh : ∀ e, (handler e).Guar G) : (m.attempt handler).Guar G := by
  have hres : ∀ (r : Res σ κ ε ρ α) (pre : σ), r.Guar G pre → (r.attempt handler).Guar G pre := by
    intro r
    induction r with
    | done a s => exact fun _ hr => hr
    | thrown e s =>
      intro pre hr
      exact (hh e s).before hr
    | call c s resume ih =>
      intro pre hr
      exact ⟨hr.1, fun r s' => ih r s' s' (hr.2 r s')⟩
  intro s
  exact hres _ _ (hm s)

end Rules

/-! ## Hosts that stay outside -/

/-- What the code comes to if the host answers every callback and calls nothing meanwhile. -/
def Res.settle (answer : κ → ρ) : Res σ κ ε ρ α → Except ε α × σ
  | .done a s => (.ok a, s)
  | .thrown e s => (.error e, s)
  | .call c s resume => (resume (answer c) s).settle answer

def Code.settle (answer : κ → ρ) (m : Code σ κ ε ρ α) (s : σ) : Except ε α × σ :=
  (m s).settle answer

section Settle

variable (answer : κ → ρ)

theorem Res.settle_bind (r : Res σ κ ε ρ α) (f : α → Code σ κ ε ρ β) :
    (r.bind f).settle answer =
      match r.settle answer with
      | (.ok a, s) => (f a s).settle answer
      | (.error e, s) => (.error e, s) := by
  induction r with
  | done a s => rfl
  | thrown e s => rfl
  | call c s resume ih => exact ih (answer c) s

@[simp] theorem settle_bind (m : Code σ κ ε ρ α) (f : α → Code σ κ ε ρ β) (s : σ) :
    Code.settle answer (m >>= f) s =
      match m.settle answer s with
      | (.ok a, s') => (f a).settle answer s'
      | (.error e, s') => (.error e, s') :=
  Res.settle_bind answer (m s) f

@[simp] theorem settle_pure (a : α) (s : σ) :
    Code.settle answer (pure a : Code σ κ ε ρ α) s = (.ok a, s) := rfl

@[simp] theorem settle_get (s : σ) :
    Code.settle answer (Code.get : Code σ κ ε ρ σ) s = (.ok s, s) := rfl

@[simp] theorem settle_modify (f : σ → σ) (s : σ) :
    Code.settle answer (Code.modify f : Code σ κ ε ρ Unit) s = (.ok (), f s) := rfl

@[simp] theorem settle_throw (e : ε) (s : σ) :
    Code.settle answer (Code.throw e : Code σ κ ε ρ α) s = (.error e, s) := rfl

@[simp] theorem settle_callback (c : κ) (s : σ) :
    Code.settle answer (Code.callback c : Code σ κ ε ρ ρ) s = (.ok (answer c), s) := rfl

@[simp] theorem settle_ite {p : Prop} [Decidable p] (m n : Code σ κ ε ρ α) (s : σ) :
    Code.settle answer (if p then m else n) s =
      if p then m.settle answer s else n.settle answer s := by
  split <;> rfl

theorem Res.settle_attempt (r : Res σ κ ε ρ α) (handler : ε → Code σ κ ε ρ α) :
    (r.attempt handler).settle answer =
      match r.settle answer with
      | (.ok a, s) => (.ok a, s)
      | (.error e, s) => (handler e s).settle answer := by
  induction r with
  | done a s => rfl
  | thrown e s => rfl
  | call c s resume ih => exact ih (answer c) s

@[simp] theorem settle_attempt (m : Code σ κ ε ρ α) (handler : ε → Code σ κ ε ρ α) (s : σ) :
    Code.settle answer (m.attempt handler) s =
      match m.settle answer s with
      | (.ok a, s') => (.ok a, s')
      | (.error e, s') => (handler e).settle answer s' :=
  Res.settle_attempt answer (m s) handler

/-- What each stretch keeps, the whole keeps. -/
theorem Code.Guar.settle {G : σ → σ → Prop} [Keeping G] {m : Code σ κ ε ρ α} (hm : m.Guar G)
    (s : σ) : G s (m.settle answer s).2 := by
  have hres : ∀ (r : Res σ κ ε ρ α) (pre : σ), r.Guar G pre → G pre (r.settle answer).2 := by
    intro r
    induction r with
    | done a s => exact fun _ h => h
    | thrown e s => exact fun _ h => h
    | call c s resume ih =>
      exact fun pre h => Keeping.trans _ _ _ h.1 (ih (answer c) s s (h.2 (answer c) s))
  exact hres _ _ (hm s)

/-- With these answers the method returns, and keeps `G`. -/
def Code.Returns (G : σ → σ → Prop) (m : Code σ κ ε ρ α) : Prop :=
  ∀ s, ∃ a s', m.settle answer s = (.ok a, s') ∧ G s s'

section Returns

variable {answer} {G : σ → σ → Prop}

theorem returns_modify {f : σ → σ} (h : ∀ s, G s (f s)) :
    Code.Returns answer G (Code.modify f : Code σ κ ε ρ Unit) := fun s => ⟨(), f s, rfl, h s⟩

theorem returns_ite {p : Prop} [Decidable p] {m n : Code σ κ ε ρ α}
    (hm : Code.Returns answer G m) (hn : Code.Returns answer G n) :
    Code.Returns answer G (if p then m else n) := by
  split
  · exact hm
  · exact hn

variable [Keeping G]

theorem returns_pure (a : α) : Code.Returns answer G (pure a : Code σ κ ε ρ α) :=
  fun s => ⟨a, s, rfl, Keeping.refl s⟩

theorem returns_get : Code.Returns answer G (Code.get : Code σ κ ε ρ σ) :=
  fun s => ⟨s, s, rfl, Keeping.refl s⟩

theorem returns_bind {m : Code σ κ ε ρ α} {f : α → Code σ κ ε ρ β}
    (hm : Code.Returns answer G m) (hf : ∀ a, Code.Returns answer G (f a)) :
    Code.Returns answer G (m >>= f) := by
  intro s
  obtain ⟨a, middle, hfirst, hG⟩ := hm s
  obtain ⟨b, after, hsecond, hG'⟩ := hf a middle
  refine ⟨b, after, ?_, Keeping.trans _ _ _ hG hG'⟩
  rw [settle_bind, hfirst]
  exact hsecond

end Returns

end Settle

/-! ## A host that acts -/

/-- What a method comes to with a host that acts on the object in its callbacks, and remembers what
    it has done. -/
def Res.play {μ : Type} (host : κ → σ → μ → ρ × σ × μ) : Res σ κ ε ρ α → μ → Except ε α × σ × μ
  | .done a s, memory => (.ok a, s, memory)
  | .thrown e s, memory => (.error e, s, memory)
  | .call c s resume, memory =>
    (resume (host c s memory).1 (host c s memory).2.1).play host (host c s memory).2.2

def Code.play {μ : Type} (host : κ → σ → μ → ρ × σ × μ) (m : Code σ κ ε ρ α) (s : σ) (memory : μ) :
    Except ε α × σ × μ :=
  (m s).play host memory

section Play

variable {μ : Type} (host : κ → σ → μ → ρ × σ × μ)

theorem Res.play_bind (r : Res σ κ ε ρ α) (f : α → Code σ κ ε ρ β) (memory : μ) :
    (r.bind f).play host memory =
      match r.play host memory with
      | (.ok a, s, memory') => (f a s).play host memory'
      | (.error e, s, memory') => (.error e, s, memory') := by
  induction r generalizing memory with
  | done a s => rfl
  | thrown e s => rfl
  | call c s resume ih => exact ih _ _ _

@[simp] theorem play_bind (m : Code σ κ ε ρ α) (f : α → Code σ κ ε ρ β) (s : σ) (memory : μ) :
    Code.play host (m >>= f) s memory =
      match m.play host s memory with
      | (.ok a, s', memory') => (f a).play host s' memory'
      | (.error e, s', memory') => (.error e, s', memory') :=
  Res.play_bind host (m s) f memory

@[simp] theorem play_pure (a : α) (s : σ) (memory : μ) :
    Code.play host (pure a : Code σ κ ε ρ α) s memory = (.ok a, s, memory) := rfl

@[simp] theorem play_get (s : σ) (memory : μ) :
    Code.play host (Code.get : Code σ κ ε ρ σ) s memory = (.ok s, s, memory) := rfl

@[simp] theorem play_modify (f : σ → σ) (s : σ) (memory : μ) :
    Code.play host (Code.modify f : Code σ κ ε ρ Unit) s memory = (.ok (), f s, memory) := rfl

@[simp] theorem play_throw (e : ε) (s : σ) (memory : μ) :
    Code.play host (Code.throw e : Code σ κ ε ρ α) s memory = (.error e, s, memory) := rfl

@[simp] theorem play_callback (c : κ) (s : σ) (memory : μ) :
    Code.play host (Code.callback c : Code σ κ ε ρ ρ) s memory =
      (.ok (host c s memory).1, (host c s memory).2) := rfl

@[simp] theorem play_ite {p : Prop} [Decidable p] (m n : Code σ κ ε ρ α) (s : σ) (memory : μ) :
    Code.play host (if p then m else n) s memory =
      if p then m.play host s memory else n.play host s memory := by
  split <;> rfl

/-- Whatever comes of the method, it keeps `G`, and leaves the host nothing to remember. -/
def Code.Leaves (G : σ → σ → Prop) (m : Code σ κ ε ρ α) : Prop :=
  ∀ s memory, ∃ result s', m.play host s memory = (result, s', memory) ∧ G s s'

section Leaves

variable {host} {G : σ → σ → Prop}

theorem leaves_modify {f : σ → σ} (h : ∀ s, G s (f s)) :
    Code.Leaves host G (Code.modify f : Code σ κ ε ρ Unit) :=
  fun s _ => ⟨.ok (), f s, rfl, h s⟩

theorem leaves_ite {p : Prop} [Decidable p] {m n : Code σ κ ε ρ α} (hm : Code.Leaves host G m)
    (hn : Code.Leaves host G n) : Code.Leaves host G (if p then m else n) := by
  split
  · exact hm
  · exact hn

variable [Keeping G]

theorem leaves_pure (a : α) : Code.Leaves host G (pure a : Code σ κ ε ρ α) :=
  fun s _ => ⟨.ok a, s, rfl, Keeping.refl s⟩

theorem leaves_get : Code.Leaves host G (Code.get : Code σ κ ε ρ σ) :=
  fun s _ => ⟨.ok s, s, rfl, Keeping.refl s⟩

theorem leaves_bind {m : Code σ κ ε ρ α} {f : α → Code σ κ ε ρ β} (hm : Code.Leaves host G m)
    (hf : ∀ a, Code.Leaves host G (f a)) : Code.Leaves host G (m >>= f) := by
  intro s memory
  obtain ⟨result, middle, hfirst, hG⟩ := hm s memory
  cases result with
  | error e => exact ⟨.error e, middle, by rw [play_bind, hfirst], hG⟩
  | ok a =>
    obtain ⟨result, after, hsecond, hG'⟩ := hf a middle memory
    refine ⟨result, after, ?_, Keeping.trans _ _ _ hG hG'⟩
    rw [play_bind, hfirst]
    exact hsecond

end Leaves

end Play

/-! ## Worlds -/

/-- A method that waits in a callback. The tag is what its issue is remembered by. -/
structure Frame (σ κ ε ρ τ : Type) where
  tag : τ
  resume : ρ → Code σ κ ε ρ Unit

/-- An object, and the methods on the call stack. -/
structure World (σ κ ε ρ τ : Type) where
  state : σ
  stack : List (Frame σ κ ε ρ τ)

inductive Event (ι ρ : Type) where
  /-- The host calls a method: on its own, or inside the callback on top of the stack. -/
  | issue (i : ι)
  /-- The callback on top of the stack comes back. -/
  | reply (r : ρ)

/-- What the host sees of a step. -/
inductive Outcome (κ ε : Type) where
  | returned
  | threw (e : ε)
  | called (callback : κ)
  | idle

variable {ι τ : Type}

/-- The method tagged `tag` has come to `res`. -/
def land (tag : τ) (stack : List (Frame σ κ ε ρ τ)) :
    Res σ κ ε ρ Unit → Outcome κ ε × World σ κ ε ρ τ
  | .done _ s => (.returned, ⟨s, stack⟩)
  | .thrown e s => (.threw e, ⟨s, stack⟩)
  | .call c s resume => (.called c, ⟨s, ⟨tag, resume⟩ :: stack⟩)

/-- One step of host and object. -/
def step (code : ι → Code σ κ ε ρ Unit) (tag : ι → σ → τ) (world : World σ κ ε ρ τ) :
    Event ι ρ → Outcome κ ε × World σ κ ε ρ τ
  | .issue i => land (tag i world.state) world.stack (code i world.state)
  | .reply r =>
    match world.stack with
    | [] => (.idle, world)
    | frame :: stack => land frame.tag stack (frame.resume r world.state)

section Runs

variable {code : ι → Code σ κ ε ρ Unit} {tag : ι → σ → τ} {G : σ → σ → Prop}

/-- Every method that waits keeps `G` when it goes on. -/
def World.Waits (G : σ → σ → Prop) (world : World σ κ ε ρ τ) : Prop :=
  ∀ frame ∈ world.stack, ∀ r, (frame.resume r).Guar G

theorem land_guar {t : τ} {stack : List (Frame σ κ ε ρ τ)} {res : Res σ κ ε ρ Unit} {pre : σ}
    (hres : res.Guar G pre) (hstack : ∀ frame ∈ stack, ∀ r, (frame.resume r).Guar G) :
    G pre (land t stack res).2.state ∧ (land t stack res).2.Waits G := by
  cases res with
  | done a s => exact ⟨hres, hstack⟩
  | thrown e s => exact ⟨hres, hstack⟩
  | call c s resume =>
    refine ⟨hres.1, ?_⟩
    intro frame hframe
    rcases List.mem_cons.mp hframe with rfl | hold
    · exact hres.2
    · exact hstack frame hold

theorem step_guar [Keeping G] (hcode : ∀ i, (code i).Guar G) (world : World σ κ ε ρ τ)
    (hwaits : world.Waits G) (event : Event ι ρ) :
    G world.state (step code tag world event).2.state ∧ (step code tag world event).2.Waits G := by
  cases event with
  | issue i => exact land_guar (hcode i world.state) hwaits
  | reply r =>
    simp only [step]
    split
    · exact ⟨Keeping.refl _, hwaits⟩
    · next frame stack hs =>
      rw [World.Waits, hs] at hwaits
      exact land_guar (hwaits frame List.mem_cons_self r world.state)
        fun frame hframe => hwaits frame (List.mem_cons_of_mem _ hframe)

/-- **What every method keeps, every run keeps**, however the host nests its calls. -/
theorem run_guar [Keeping G] (hcode : ∀ i, (code i).Guar G) {world : World σ κ ε ρ τ}
    (hwaits : world.Waits G) (events : List (Event ι ρ)) :
    G world.state (Machine.run (step code tag) world events).state :=
  Machine.run_related (step code tag) (P := World.Waits G)
    (R := fun w w' => G w.state w'.state) (fun _ => Keeping.refl _)
    (fun h h' => Keeping.trans _ _ _ h h')
    (fun w event hw => (step_guar hcode w hw event).2)
    (fun w event hw => (step_guar hcode w hw event).1) hwaits events

end Runs

end Callback
