import Mathlib
import GuildCards.Play.Refusal

/-!
When calculations that may fail succeed, and what they fail with.
-/
namespace GuildCards

section Except
variable {ε δ α β γ κ : Type}

theorem bind_eq_ok {x : Except ε α} {f : α → Except ε β} {b : β} :
    (x >>= f) = .ok b ↔ ∃ a, x = .ok a ∧ f a = .ok b := by
  cases x <;> simp [bind, Except.bind]

theorem bind_eq_error {x : Except ε α} {f : α → Except ε β} {e : ε} :
    (x >>= f) = .error e ↔ x = .error e ∨ ∃ a, x = .ok a ∧ f a = .error e := by
  cases x <;> simp [bind, Except.bind]

theorem ok_bind (a : α) (f : α → Except ε β) : (Except.ok a >>= f) = f a := rfl

theorem pure_eq_ok {a b : α} : (pure a : Except ε α) = .ok b ↔ b = a := by
  simp only [pure, Except.pure, Except.ok.injEq, eq_comm]

theorem mapError_eq_ok {f : ε → δ} {x : Except ε α} {a : α} :
    x.mapError f = .ok a ↔ x = .ok a := by
  cases x <;> simp [Except.mapError]

theorem exists_of_isOk {x : Except ε α} (h : x.isOk = true) : ∃ a, x = .ok a := by
  cases x with
  | error e => cases h
  | ok a => exact ⟨a, rfl⟩

theorem toOption_map_eq_some {x : Except ε α} {f : α → β} {b : β} :
    x.toOption.map f = some b ↔ ∃ a, x = .ok a ∧ f a = b := by
  cases x <;> simp [Except.toOption]

theorem mapM_congr {f g : α → Except ε β} {as : List α} (h : ∀ a ∈ as, f a = g a) :
    as.mapM f = as.mapM g := by
  induction as with
  | nil => rfl
  | cons a as ih =>
    rw [List.mapM_cons, List.mapM_cons, h a List.mem_cons_self,
      ih fun b hb => h b (List.mem_cons_of_mem a hb)]

theorem exists_of_mem_mapM {f : α → Except ε β} {as : List α} {bs : List β} {b : β}
    (h : as.mapM f = .ok bs) (hb : b ∈ bs) : ∃ a ∈ as, f a = .ok b := by
  induction as generalizing bs with
  | nil =>
    obtain rfl := pure_eq_ok.mp h
    cases hb
  | cons a as ih =>
    rw [List.mapM_cons] at h
    obtain ⟨c, hc, h⟩ := bind_eq_ok.mp h
    obtain ⟨cs, hcs, h⟩ := bind_eq_ok.mp h
    obtain rfl := pure_eq_ok.mp h
    rcases List.mem_cons.mp hb with rfl | hb
    · exact ⟨a, List.mem_cons_self, hc⟩
    · obtain ⟨d, hd, hfd⟩ := ih hcs hb
      exact ⟨d, List.mem_cons_of_mem a hd, hfd⟩

theorem mapM_eq_ok {f : α → Except ε β} {as : List α} {bs : List β} :
    as.mapM f = .ok bs ↔ List.Forall₂ (fun a b => f a = .ok b) as bs := by
  induction as generalizing bs with
  | nil => rw [List.mapM_nil, pure_eq_ok, List.forall₂_nil_left_iff]
  | cons a as ih =>
    simp only [List.mapM_cons, bind_eq_ok, pure_eq_ok, ih, List.forall₂_cons_left_iff,
      exists_and_left]

theorem exists_mapM {f : α → Except ε β} {as : List α} (h : ∀ a ∈ as, ∃ b, f a = .ok b) :
    ∃ bs, as.mapM f = .ok bs := by
  induction as with
  | nil => exact ⟨[], rfl⟩
  | cons a as ih =>
    rw [List.forall_mem_cons] at h
    obtain ⟨b, hb⟩ := h.1
    obtain ⟨bs, hbs⟩ := ih h.2
    exact ⟨b :: bs, by rw [List.mapM_cons, hb, hbs]; rfl⟩

theorem mapM_eq_of_forall₂ {f : α → Except ε γ} {g : β → Except ε γ} {as : List α}
    {bs : List β} (h : List.Forall₂ (fun a b => f a = g b) as bs) : as.mapM f = bs.mapM g := by
  induction h with
  | nil => rfl
  | cons hab _ ih => rw [List.mapM_cons, List.mapM_cons, hab, ih]

/-- Results that agree up to `h`, continued alike up to `k`, agree up to `k`. -/
theorem map_bind_congr {x y : Except ε α} {f g : α → Except ε β} {h : α → γ} {k : β → κ}
    (hxy : x.map h = y.map h) (hfg : ∀ a b, h a = h b → (f a).map k = (g b).map k) :
    (x >>= f).map k = (y >>= g).map k := by
  cases x with
  | error e =>
    cases y with
    | error e' => exact congrArg Except.error (Except.error.inj hxy)
    | ok b => cases hxy
  | ok a =>
    cases y with
    | error e => cases hxy
    | ok b => exact hfg a b (Except.ok.inj hxy)

theorem exists_of_map_eq {x y : Except ε α} {h : α → γ} {a : α}
    (hxy : y.map h = x.map h) (hx : x = .ok a) : ∃ b, y = .ok b ∧ h b = h a := by
  rw [hx] at hxy
  cases y with
  | error e => cases hxy
  | ok b => exact ⟨b, rfl, Except.ok.inj hxy⟩

theorem map_mapM_congr {f g : α → Except ε β} {k : β → κ} {as : List α}
    (h : ∀ a ∈ as, (f a).map k = (g a).map k) :
    (as.mapM f).map (List.map k) = (as.mapM g).map (List.map k) := by
  induction as with
  | nil => rfl
  | cons a as ih =>
    rw [List.forall_mem_cons] at h
    rw [List.mapM_cons, List.mapM_cons]
    refine map_bind_congr h.1 fun b c hbc => map_bind_congr (ih h.2) fun bs cs hbcs => ?_
    change Except.ok ((b :: bs).map k) = Except.ok ((c :: cs).map k)
    rw [List.map_cons, List.map_cons, hbc, hbcs]

end Except

theorem lift_ok {α : Type} (a : α) :
    (liftM (Except.ok a : Except Fault α) : Except Refusal α) = .ok a := rfl

theorem lift_eq_ok {α : Type} {x : Except Fault α} {a : α} :
    (liftM x : Except Refusal α) = .ok a ↔ x = .ok a := by
  cases x with
  | ok b => simp [lift_ok]
  | error f =>
    constructor <;> intro h <;> cases h

theorem need_eq_ok {q : Prop} [Decidable q] {why : Refusal} {u : Unit} :
    need q why = .ok u ↔ q := by
  unfold need
  split <;> simp_all

theorem need_bind_eq_error {β : Type} {q : Prop} [Decidable q] {why e : Refusal}
    {f : Unit → Except Refusal β} :
    (need q why >>= f) = .error e ↔ ¬q ∧ e = why ∨ q ∧ f () = .error e := by
  by_cases hq : q <;> simp [need, hq, bind, Except.bind, eq_comm]

theorem needSome_eq_ok {α : Type} {o : Option α} {why : Refusal} {a : α} :
    needSome o why = .ok a ↔ o = some a := by
  cases o <;> simp [needSome]

theorem needSome_bind_eq_error {α β : Type} {o : Option α} {why e : Refusal}
    {f : α → Except Refusal β} :
    (needSome o why >>= f) = .error e ↔
      o = none ∧ e = why ∨ ∃ a, o = some a ∧ f a = .error e := by
  cases o <;> simp [needSome, bind, Except.bind, eq_comm]

end GuildCards
