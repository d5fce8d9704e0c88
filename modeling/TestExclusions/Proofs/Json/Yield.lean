import TestExclusions.Json.Decoder
import TestExclusions.Proofs.Outcome

/-! What holds of everything that a decoder gives. The condition is carried from the parts of a
value to the value: through the elements of a list, and through the state that the members of an
object build up. -/
namespace TestExclusions.Json
open Decoder Outcome

/-- Whatever a decoder gives satisfies a condition. -/
def Yields {α : Type} (d : Decoder α) (P : α → Prop) : Prop :=
  ∀ cs a rest, d cs = .ok (a, rest) → P a

section Yields
variable {α β σ : Type} {d : Decoder α} {P : α → Prop}

theorem yields_true (d : Decoder α) : Yields d fun _ => True := fun _ _ _ _ => trivial

theorem yields_pure {a : α} (h : P a) : Yields (pure a) P := by
  rintro _ _ _ ⟨⟩
  exact h

theorem yields_throw (e : Fault) : Yields (throw e : Decoder α) P := by
  rintro _ _ _ ⟨⟩

theorem Yields.mono (h : Yields d P) {Q : α → Prop} (hPQ : ∀ a, P a → Q a) : Yields d Q :=
  fun cs a rest ha => hPQ a (h cs a rest ha)

theorem Yields.bind (h : Yields d P) {f : α → Decoder β} {Q : β → Prop}
    (hf : ∀ a, P a → Yields (f a) Q) : Yields (d >>= f) Q := by
  intro cs b rest hb
  obtain ⟨⟨a, after⟩, ha, hb⟩ := bind_eq_ok_iff.mp hb
  exact hf a (h cs a after ha) after b rest hb

theorem Yields.map {f : α → β} {Q : β → Prop} (h : Yields d fun a => Q (f a)) :
    Yields (f <$> d) Q := by
  intro cs b rest hb
  obtain ⟨⟨a, after⟩, ha, hpure⟩ := bind_eq_ok_iff.mp hb
  cases hpure
  exact h cs a _ ha

theorem yields_natural (limit : Nat) : Yields (natural limit) (· < limit) := by
  intro cs n rest h
  unfold natural at h
  split at h
  · cases h
  · split at h
    · split at h
      · split at h
        · rename_i hlt
          cases h
          exact hlt
        · cases h
      · cases h
      · cases h
    · cases h

theorem Yields.nullable (h : Yields d P) : Yields (nullable d) fun read => ∀ a ∈ read, P a := by
  intro cs read rest hread
  unfold Decoder.nullable at hread
  split at hread
  · obtain ⟨_, -, hnone⟩ := map_eq_ok_iff.mp hread
    cases hnone
    simp
  · obtain ⟨⟨a, after⟩, ha, hsome⟩ := map_eq_ok_iff.mp hread
    cases hsome
    simpa using h _ a rest ha

/-! ## Lists -/

theorem Yields.element (h : Yields d P) (first : Bool) :
    Yields (element first d) fun read => ∀ a ∈ read, P a := by
  refine (yields_true (nextElement first)).bind fun found _ => ?_
  split
  · exact h.bind fun a ha => yields_pure (by simpa using ha)
  · exact yields_pure (by simp)

theorem Yields.elementDue (h : Yields d P) (first : Bool) : Yields (elementDue first d) P := by
  refine (h.element first).bind fun read hread => ?_
  cases read with
  | none => exact yields_throw _
  | some a => exact yields_pure (hread a rfl)

theorem Yields.elements (h : Yields d P) (fuel : Nat) (first : Bool) :
    Yields (elements d fuel first) fun as => ∀ a ∈ as, P a := by
  induction fuel generalizing first with
  | zero => exact yields_throw _
  | succ fuel ih =>
    refine (h.element first).bind fun read hread => ?_
    cases read with
    | none => exact yields_pure (by simp)
    | some a =>
      refine (ih false).bind fun as has => yields_pure ?_
      exact List.forall_mem_cons.mpr ⟨hread a rfl, has⟩

theorem Yields.list (h : Yields d P) : Yields (list d) fun as => ∀ a ∈ as, P a := by
  intro cs as rest has
  unfold Decoder.list at has
  split at has
  · rename_i body _
    have hall : Yields (do
        let as ← Decoder.elements d (body.length + 1) true
        endList
        return as) fun as => ∀ a ∈ as, P a :=
      (h.elements _ true).bind fun read hread =>
        (yields_true endList).bind fun _ _ => yields_pure hread
    exact hall _ as rest has
  · cases has

/-! ## Objects -/

theorem once_eq_ok_iff {soFar : Option α} {value : Decoder α} {set : α → σ} {d : Decoder σ} :
    once soFar value set = .ok d ↔ soFar = none ∧ d = set <$> value := by
  cases soFar <;> simp [once, eq_comm]

/-- The condition on what has been read so far that every member keeps. -/
def KeptBy (member : σ → String → Except Fault (Decoder σ)) (I : σ → Prop) : Prop :=
  ∀ state key d, I state → member state key = .ok d → Yields d I

variable {member : σ → String → Except Fault (Decoder σ)} {I : σ → Prop}

theorem yields_members (h : KeptBy member I) (fuel : Nat) (first : Bool) {state : σ}
    (hstate : I state) : Yields (members member fuel first state) I := by
  induction fuel generalizing first state with
  | zero => exact yields_throw _
  | succ fuel ih =>
    refine (yields_true (nextKey first)).bind fun found _ => ?_
    cases found with
    | none => exact yields_pure hstate
    | some key =>
      dsimp only
      cases hvalue : member state (String.ofList key) with
      | error e => exact yields_throw e
      | ok d =>
        change Yields (colon >>= fun _ => d >>= members member fuel false) I
        refine (yields_true colon).bind fun _ _ => ?_
        exact (h state _ d hstate hvalue).bind fun next hnext => ih false hnext

theorem yields_fields {inOrder : Decoder α} {start : σ} {finish : σ → Except Fault α}
    (horder : Yields inOrder P) (hstart : I start) (hmember : KeptBy member I)
    (hfinish : ∀ state a, I state → finish state = .ok a → P a) :
    Yields (fields inOrder start member finish) P := by
  intro cs a rest ha
  unfold fields at ha
  split at ha
  · have hlist : Yields (do let read ← inOrder; endList; return read) P :=
      horder.bind fun read hread => (yields_true endList).bind fun _ _ => yields_pure hread
    exact hlist _ a rest ha
  · rename_i body _
    have hobject : Yields (do
        let read ← members member (body.length + 1) true start
        let read ← finish read
        endObject
        return read) P := by
      refine (yields_members hmember _ true hstart).bind fun state hstate => ?_
      cases hread : finish state with
      | error e => exact yields_throw e
      | ok read =>
        exact (yields_true endObject).bind fun _ _ => yields_pure (hfinish state read hstate hread)
    exact hobject _ a rest ha
  · cases ha

/-- What is decoded from a whole text. -/
theorem Yields.decode (h : Yields d P) {text : String} {a : α} (ha : decode d text = .ok a) :
    P a := by
  unfold Decoder.decode at ha
  split at ha
  · cases ha
  · rename_i read rest hread
    split at ha
    · cases ha
      exact h _ a rest hread
    · cases ha

end Yields
end TestExclusions.Json
