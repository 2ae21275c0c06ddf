import Bulletin.Dialogue

namespace Bulletin

section Results

variable {α β ε : Type}

theorem ok_bind (a : α) (f : α → Except ε β) : (Except.ok a >>= f) = f a := rfl

theorem bind_eq_ok_iff {x : Except ε α} {f : α → Except ε β} {b : β} :
    x >>= f = .ok b ↔ ∃ a, x = .ok a ∧ f a = .ok b := by
  cases x with
  | ok a => simp [ok_bind]
  | error e => exact ⟨nofun, nofun⟩

def Ensures (Q : α → Prop) (x : Except ε α) : Prop := ∀ a, x = .ok a → Q a

theorem Ensures.bind {Q : β → Prop} {x : Except ε α} {f : α → Except ε β}
    (h : ∀ a, x = .ok a → Ensures Q (f a)) : Ensures Q (x >>= f) := by
  cases x with
  | ok a => exact h a rfl
  | error e => exact nofun

end Results

namespace Dialogue

variable {Question Question' : Type} {Answer : Question → Type} {Answer' : Question' → Type}
variable {α β ε σ τ : Type} {step : (q : Question) → σ → Answer q × σ}

theorem bind_done (d : Dialogue Question Answer α) : d.bind .done = d := by
  induction d with
  | done a => rfl
  | ask q next ih =>
    apply congrArg (Dialogue.ask q)
    funext r
    exact ih r

theorem bind_assoc {γ : Type} (d : Dialogue Question Answer α)
    (f : α → Dialogue Question Answer β) (g : β → Dialogue Question Answer γ) :
    (d.bind f).bind g = d.bind fun a => (f a).bind g := by
  induction d with
  | done a => rfl
  | ask q next ih =>
    apply congrArg (Dialogue.ask q)
    funext r
    exact ih r

instance : LawfulMonad (Dialogue Question Answer) :=
  LawfulMonad.mk' _ bind_done (fun _ _ => rfl) bind_assoc

def attempt (step : (q : Question) → σ → Answer q × σ)
    (d : ExceptT ε (Dialogue Question Answer) α) (s : σ) : Except ε α × σ := d.run.run step s

theorem attempt_bind (d : ExceptT ε (Dialogue Question Answer) α)
    (f : α → ExceptT ε (Dialogue Question Answer) β) (s : σ) :
    attempt step (d >>= f) s = match attempt step d s with
      | (.ok a, s') => attempt step (f a) s'
      | (.error e, s') => (.error e, s') := by
  change (Dialogue.bind _ _).run _ _ = _
  rw [run_bind]
  change (ExceptT.bindCont f (attempt step d s).1).run _ (attempt step d s).2 = _
  cases attempt step d s with
  | mk outcome s' => cases outcome <;> rfl

/-- Every question meets a condition on the state in which it is asked. -/
def Along (step : (q : Question) → σ → Answer q × σ) (P : Question → σ → Prop) :
    Dialogue Question Answer α → σ → Prop
  | .done _, _ => True
  | .ask q next, s => P q s ∧ (next (step q s).1).Along step P (step q s).2

variable {P Q : Question → σ → Prop}

theorem Along.imp (h : ∀ q s, P q s → Q q s) {d : Dialogue Question Answer α} {s : σ}
    (hd : d.Along step P s) : d.Along step Q s := by
  induction d generalizing s with
  | done a => trivial
  | ask q next ih => exact ⟨h q s hd.1, ih _ hd.2⟩

theorem Along.bind {d : Dialogue Question Answer α} {f : α → Dialogue Question Answer β} {s : σ}
    (hd : d.Along step P s) (hf : (f (d.run step s).1).Along step P (d.run step s).2) :
    (d.bind f).Along step P s := by
  induction d generalizing s with
  | done a => exact hf
  | ask q next ih => exact ⟨hd.1, ih _ hd.2 hf⟩

theorem Along.keeps {I : σ → Prop} (h : ∀ q s, P q s → I s → I (step q s).2)
    {d : Dialogue Question Answer α} {s : σ} (hd : d.Along step P s) (hs : I s) :
    I (d.run step s).2 := by
  induction d generalizing s with
  | done a => exact hs
  | ask q next ih => exact ih _ hd.2 (h q s hd.1 hs)

theorem Along.run_eq (h : ∀ q s, P q s → (step q s).2 = s) {d : Dialogue Question Answer α} {s : σ}
    (hd : d.Along step P s) : (d.run step s).2 = s := by
  induction d generalizing s with
  | done a => rfl
  | ask q next ih =>
    have hs := h q s hd.1
    have hnext := ih _ hd.2
    rw [hs] at hnext
    change ((next (step q s).1).run step (step q s).2).2 = s
    rw [hs]
    exact hnext

theorem record_bind (d : Dialogue Question Answer α) (f : α → Dialogue Question Answer β) (s : σ) :
    (d.bind f).record step s =
      d.record step s ++ (f (d.run step s).1).record step (d.run step s).2 := by
  induction d generalizing s with
  | done a => rfl
  | ask q next ih => exact congrArg (_ :: ·) (ih _ _)

theorem eq_of_mem_record {f : (q : Question) → Answer q} (hstep : ∀ q s, (step q s).1 = f q)
    {d : Dialogue Question Answer α} {s : σ} {x : (q : Question) × Answer q}
    (hx : x ∈ d.record step s) : x = ⟨x.1, f x.1⟩ := by
  induction d generalizing s with
  | done a => cases hx
  | ask q next ih =>
    rcases List.mem_cons.1 hx with rfl | hx
    · exact congrArg (Sigma.mk q) (hstep q s)
    · exact ih _ hx

theorem record_attempt_bind (d : ExceptT ε (Dialogue Question Answer) α)
    (f : α → ExceptT ε (Dialogue Question Answer) β) (s : σ) :
    (d >>= f).run.record step s = d.run.record step s ++ match attempt step d s with
      | (.ok a, s') => (f a).run.record step s'
      | (.error _, _) => [] := by
  change (Dialogue.bind _ _).record _ _ = _
  rw [record_bind]
  congr 1
  change (ExceptT.bindCont f (attempt step d s).1).record _ (attempt step d s).2 = _
  cases attempt step d s with
  | mk outcome s' => cases outcome <;> rfl

/-- Whatever the answers, the result meets a condition, together with all that was asked and
answered, `log` included. -/
def Yields (P : α → List ((q : Question) × Answer q) → Prop) :
    Dialogue Question Answer α → List ((q : Question) × Answer q) → Prop
  | .done a, log => P a log
  | .ask q next, log => ∀ r, (next r).Yields P (log ++ [⟨q, r⟩])

section Yields

variable {log : List ((q : Question) × Answer q)}

theorem Yields.imp {P Q : α → List ((q : Question) × Answer q) → Prop}
    (h : ∀ a log, P a log → Q a log) {d : Dialogue Question Answer α} (hd : d.Yields P log) :
    d.Yields Q log := by
  induction d generalizing log with
  | done a => exact h a log hd
  | ask q next ih => exact fun r => ih r (hd r)

theorem Yields.bind {P : β → List ((q : Question) × Answer q) → Prop}
    {d : Dialogue Question Answer α} {f : α → Dialogue Question Answer β}
    (hd : d.Yields (fun a log => (f a).Yields P log) log) : (d.bind f).Yields P log := by
  induction d generalizing log with
  | done a => exact hd
  | ask q next ih => exact fun r => ih r (hd r)

theorem Yields.of_run {P : α → List ((q : Question) × Answer q) → Prop}
    {d : Dialogue Question Answer α} (hd : d.Yields P log)
    (step : (q : Question) → σ → Answer q × σ) (s : σ) :
    P (d.run step s).1 (log ++ d.record step s) := by
  induction d generalizing log s with
  | done a =>
    rw [record, List.append_nil]
    exact hd
  | ask q next ih =>
    have hnext := ih (step q s).1 (hd (step q s).1) (step q s).2
    rw [List.append_assoc] at hnext
    exact hnext

end Yields

def Brings (E : ε → List ((q : Question) × Answer q) → Prop)
    (P : α → List ((q : Question) × Answer q) → Prop)
    (d : ExceptT ε (Dialogue Question Answer) α) (log : List ((q : Question) × Answer q)) : Prop :=
  d.run.Yields (fun outcome log => match outcome with
    | .ok a => P a log
    | .error e => E e log) log

theorem Brings.bind {E : ε → List ((q : Question) × Answer q) → Prop}
    {P : β → List ((q : Question) × Answer q) → Prop} {log : List ((q : Question) × Answer q)}
    {d : ExceptT ε (Dialogue Question Answer) α} {f : α → ExceptT ε (Dialogue Question Answer) β}
    (hd : Brings E (fun a log => Brings E P (f a) log) d log) : Brings E P (d >>= f) log := by
  apply Yields.bind
  apply Yields.imp _ hd
  intro outcome log houtcome
  cases outcome <;> exact houtcome

theorem expand_bind (g : (q : Question) → Dialogue Question' Answer' (Answer q))
    (d : Dialogue Question Answer α) (f : α → Dialogue Question Answer β) :
    (d.bind f).expand g = (d.expand g).bind fun a => (f a).expand g := by
  induction d with
  | done a => rfl
  | ask q next ih =>
    change (g q).bind (fun r => ((next r).bind f).expand g) = _
    rw [expand, bind_assoc]
    apply congrArg
    funext r
    exact ih r

section Failing

variable {g : (q : Question) → Dialogue Question' Answer' (Answer q)}
variable {log : List ((q : Question') × Answer' q)}
variable {E : ε → List ((q : Question') × Answer' q) → Prop}

theorem Brings.expand_bind {P : β → List ((q : Question') × Answer' q) → Prop}
    {d : ExceptT ε (Dialogue Question Answer) α} {f : α → ExceptT ε (Dialogue Question Answer) β}
    (hd : Brings E (fun a log => Brings E P (ExceptT.mk ((f a).run.expand g)) log)
      (ExceptT.mk (d.run.expand g)) log) :
    Brings E P (ExceptT.mk ((d >>= f).run.expand g)) log := by
  change ((d.run.bind (ExceptT.bindCont f)).expand g).Yields _ log
  rw [Dialogue.expand_bind]
  apply Yields.bind
  apply Yields.imp _ hd
  intro outcome log houtcome
  cases outcome <;> exact houtcome

theorem Brings.mapError {ε' : Type} {P : α → List ((q : Question') × Answer' q) → Prop}
    {h : ε' → ε} {d : ExceptT ε' (Dialogue Question' Answer') α}
    (hd : Brings (fun e => E (h e)) P d log) :
    Brings E P (ExceptT.mk (d.run.bind fun outcome => .done (outcome.mapError h))) log := by
  apply Yields.bind
  apply Yields.imp _ hd
  intro outcome log houtcome
  cases outcome <;> exact houtcome

end Failing

theorem run_expand_eq (f : (q : Question) → Dialogue Question' Answer' (Answer q))
    (step' : (q : Question') → σ → Answer' q × σ) (d : Dialogue Question Answer α) (s : σ) :
    (d.expand f).run step' s = d.run (fun q s => (f q).run step' s) s := by
  induction d generalizing s with
  | done a => rfl
  | ask q next ih =>
    rw [expand, run_bind]
    exact ih _ _

theorem mem_record_expand {f : (q : Question) → Dialogue Question' Answer' (Answer q)}
    {step' : (q : Question') → σ → Answer' q × σ} {d : Dialogue Question Answer α} {s : σ}
    {x : (q : Question') × Answer' q} (hx : x ∈ (d.expand f).record step' s) :
    ∃ q s', x ∈ (f q).record step' s' ∧
      ⟨q, ((f q).run step' s').1⟩ ∈ d.record (fun q s => (f q).run step' s) s := by
  induction d generalizing s with
  | done a => cases hx
  | ask q next ih =>
    rw [expand, record_bind] at hx
    rcases List.mem_append.1 hx with hx | hx
    · exact ⟨q, s, hx, List.mem_cons_self⟩
    · obtain ⟨q', s', hx', hmem⟩ := ih _ hx
      exact ⟨q', s', hx', List.mem_cons_of_mem _ hmem⟩

/-- If `f` answers each question as the state does, the expanded program has the same result. -/
theorem run_expand {step' : (q : Question') → τ → Answer' q × τ}
    {f : (q : Question) → Dialogue Question' Answer' (Answer q)} {R : σ → τ → Prop}
    (hf : ∀ q s t, R s t → P q s → ((f q).run step' t).1 = (step q s).1 ∧
      R (step q s).2 ((f q).run step' t).2)
    {d : Dialogue Question Answer α} {s : σ} {t : τ} (hR : R s t) (hd : d.Along step P s) :
    ((d.expand f).run step' t).1 = (d.run step s).1 ∧
      R (d.run step s).2 ((d.expand f).run step' t).2 := by
  induction d generalizing s t with
  | done a => exact ⟨rfl, hR⟩
  | ask q next ih =>
    obtain ⟨hreply, hnext⟩ := hf q s t hR hd.1
    rw [expand, run_bind, hreply]
    exact ih _ hnext hd.2

/-- Two programs that ask the same questions, and go on alike after alike answers. -/
inductive Related (Alike : (q : Question) → Answer q → Answer q → Prop) (Out : α → β → Prop) :
    Dialogue Question Answer α → Dialogue Question Answer β → Prop
  | done {a b} : Out a b → Related Alike Out (.done a) (.done b)
  | ask {q next next'} : (∀ r r', Alike q r r' → Related Alike Out (next r) (next' r')) →
    Related Alike Out (.ask q next) (.ask q next')

variable {Alike : (q : Question) → Answer q → Answer q → Prop} {Out : α → β → Prop}

theorem Related.bind {γ δ : Type} {Out' : γ → δ → Prop}
    {d : Dialogue Question Answer α} {d' : Dialogue Question Answer β}
    {f : α → Dialogue Question Answer γ} {f' : β → Dialogue Question Answer δ}
    (hd : Related Alike Out d d') (hf : ∀ a b, Out a b → Related Alike Out' (f a) (f' b)) :
    Related Alike Out' (d.bind f) (d'.bind f') := by
  induction hd with
  | done h => exact hf _ _ h
  | ask _ ih => exact .ask ih

theorem Related.run {step' : (q : Question) → τ → Answer q × τ} {R : σ → τ → Prop}
    (hstep : ∀ q s t, R s t → Alike q (step q s).1 (step' q t).1 ∧ R (step q s).2 (step' q t).2)
    {d : Dialogue Question Answer α} {d' : Dialogue Question Answer β}
    (hd : Related Alike Out d d') {s : σ} {t : τ} (hR : R s t) :
    Out (d.run step s).1 (d'.run step' t).1 ∧ R (d.run step s).2 (d'.run step' t).2 := by
  induction hd generalizing s t with
  | done h => exact ⟨h, hR⟩
  | ask _ ih =>
    obtain ⟨hreply, hnext⟩ := hstep _ s t hR
    exact ih _ _ hreply hnext

end Dialogue

end Bulletin
