import Mathlib.Data.List.Basic

/-!
# Windows of fixed length

A limiter counts hits in windows.  A window opens with the first hit after the window before
it is over, and stays open for a fixed span; a hit is admitted while its window has room.
Lists have the newest hit first.
-/

namespace RideHailing

namespace Window

/-- The moment at which the window of this moment opens. -/
def opening (span : Nat) : List Nat → Nat → Nat
  | [], now => now
  | hit :: older, now =>
      if now < opening span older hit + span then opening span older hit else now

/-- The hits since this moment. -/
def since (moment : Nat) (hits : List Nat) : Nat :=
  hits.countP fun hit => decide (moment ≤ hit)

/-- The window of this moment has room for one more hit. -/
def admits (limit span : Nat) (hits : List Nat) (now : Nat) : Bool :=
  decide (since (opening span hits now) hits < limit)

/-- The hits came one after the other, none before the start, and each was admitted. -/
def Admitted (limit span start : Nat) : List Nat → Prop
  | [] => True
  | hit :: older => start ≤ hit ∧ (∀ earlier ∈ older, earlier ≤ hit) ∧
      admits limit span older hit = true ∧ Admitted limit span start older

variable {limit span start now : Nat} {hits : List Nat}

theorem since_cons_of_le {moment hit : Nat} (late : moment ≤ hit) (older : List Nat) :
    since moment (hit :: older) = since moment older + 1 :=
  List.countP_cons_of_pos (by simpa using late)

/-- The window of the newest hit holds no more hits than it has room for, and the windows
before it have been filled at most once each. -/
theorem Admitted.newest (positive : 0 < span) {hit : Nat} {older : List Nat}
    (admitted : Admitted limit span start (hit :: older)) :
    start ≤ opening span older hit ∧ opening span older hit ≤ hit ∧
      since (opening span older hit) (hit :: older) ≤ limit ∧
        (hit :: older).length ≤ limit * ((opening span older hit - start) / span) +
          since (opening span older hit) (hit :: older) := by
  induction older generalizing hit with
  | nil =>
      obtain ⟨late, _, room, _⟩ := admitted
      have roomy : 0 < limit := of_decide_eq_true room
      refine ⟨late, Nat.le_refl hit, ?_, ?_⟩
      · simp [opening, since]
        omega
      · simp [opening, since]
  | cons previous others ih =>
      obtain ⟨late, ordered, room, before⟩ := admitted
      obtain ⟨notBefore, notAfter, full, filled⟩ := ih before
      have later : previous ≤ hit := ordered previous List.mem_cons_self
      have few := of_decide_eq_true room
      rw [opening] at few ⊢
      split
      · rename_i same
        rw [if_pos same] at few
        have reached := Nat.le_trans notAfter later
        rw [since_cons_of_le reached, List.length_cons]
        refine ⟨notBefore, reached, few, ?_⟩
        omega
      · rename_i beyond
        rw [if_neg beyond] at few
        rw [since_cons_of_le (Nat.le_refl hit), List.length_cons]
        refine ⟨late, Nat.le_refl hit, few, ?_⟩
        -- the window of the previous hit is one of the windows before
        have next : (opening span others previous - start) / span + 1 ≤
            (hit - start) / span := by
          rw [← Nat.add_div_right _ positive]
          exact Nat.div_le_div_right (by omega)
        have windows := Nat.mul_le_mul_left limit next
        rw [Nat.mul_add_one] at windows
        omega

/-- In every span there is room for one window more than fit into the time. -/
theorem Admitted.length_le (positive : 0 < span) (admitted : Admitted limit span start hits)
    (past : ∀ hit ∈ hits, hit ≤ now) : hits.length ≤ limit * ((now - start) / span + 1) := by
  cases hits with
  | nil => exact Nat.zero_le _
  | cons hit older =>
      obtain ⟨_, reached, full, filled⟩ := admitted.newest positive
      have early : hit ≤ now := past hit List.mem_cons_self
      have windows : limit * ((opening span older hit - start) / span) ≤
          limit * ((now - start) / span) :=
        Nat.mul_le_mul_left limit (Nat.div_le_div_right (by omega))
      rw [Nat.mul_add_one]
      omega

end Window

end RideHailing
