import BranchLR.Proofs.Search.Trail

/-!
# The search follows its trail

The checkpoints of a search are the nodes on its trail that had a choice, as long as none of them
has to give way. So returning to the newest checkpoint with a candidate left is a retreat, and every
step of the search is a step of its trail, which leads to a later address.
-/

namespace BranchLR

variable [RegexLibrary]

theorem Entry.isChoice_iff {e : Entry} : e.isChoice = true ↔ 1 < e.untried.length := by
  unfold Entry.isChoice
  split
  next h => simp [h]
  next h =>
    match huntried : e.untried with
    | [] => simp
    | [_] => simp
    | _ :: _ :: _ => exact absurd huntried (h _ _ _)

/-- Selecting one candidate after another reaches every candidate. -/
theorem Snapshot.advance?_selecting (s : Snapshot) (i : Nat) :
    (s.selecting i).advance? =
      if i + 1 < s.top.untried.length then some (s.selecting (i + 1)) else none := by
  split
  next hmore =>
    have hi : i < s.top.untried.length := by omega
    refine Snapshot.advance?_eq_some_iff.2 ⟨s.top.untried[i], s.top.untried[i + 1],
      s.top.untried.drop (i + 2), ?_, ?_⟩
    · simp only [selecting]
      rw [List.drop_eq_getElem_cons hi, List.drop_eq_getElem_cons hmore]
    · have htake : (s.top.untried.take (i + 1)).reverse =
          s.top.untried[i] :: (s.top.untried.take i).reverse := by
        rw [List.take_succ_eq_append_getElem hi, List.reverse_append]
        rfl
      simp only [selecting, htake, List.drop_eq_getElem_cons hmore, List.cons_append]
  next hlast =>
    refine Option.eq_none_iff_forall_ne_some.2 fun next hnext => ?_
    obtain ⟨a, b, rest, huntried, -⟩ := Snapshot.advance?_eq_some_iff.1 hnext
    have hlength := congrArg List.length huntried
    simp only [selecting, List.length_drop, List.length_cons] at hlength
    omega

/-- Returning to the newest checkpoint with a candidate left is a retreat. -/
theorem Trail.retryFrom_saved (t : Trail) {size : Nat} (h : size = t.saved.length) :
    (Checkpoints.retryFrom t.saved size h).map (fun found => (found.1, found.2.newestFirst)) =
      t.retreat.head?.map fun frame => (frame.1.selecting frame.2, t.retreat.saved) := by
  induction t generalizing size with
  | nil => rfl
  | cons frame t ih =>
    obtain ⟨s, i⟩ := frame
    by_cases hmore : i + 1 < s.top.untried.length
    · have hchoice : s.top.isChoice = true := Entry.isChoice_iff.2 (by omega)
      have hadvance : (s.selecting i).advance? = some (s.selecting (i + 1)) := by
        rw [Snapshot.advance?_selecting, if_pos hmore]
      simp [saved, retreat, hchoice, hmore, Checkpoints.retryFrom, hadvance]
    · have hadvance : (s.selecting i).advance? = none := by
        rw [Snapshot.advance?_selecting, if_neg hmore]
      have hretreat : retreat ((s, i) :: t) = retreat t := by simp [retreat, hmore]
      rw [hretreat]
      by_cases hchoice : s.top.isChoice = true
      · have hsaved : saved ((s, i) :: t) = s.selecting i :: saved t := by simp [saved, hchoice]
        simp only [hsaved, Checkpoints.retryFrom, hadvance]
        exact ih _
      · have hsaved : saved ((s, i) :: t) = saved t := by simp [saved, hchoice]
        simp only [hsaved]
        exact ih _

/-- Checkpoints that are those of a trail are retried by a retreat. -/
theorem Trail.retry_eq {t : Trail} {c : Checkpoints} (h : c.newestFirst = t.saved) :
    c.retry.map (fun found => (found.1, found.2.newestFirst)) =
      t.retreat.head?.map fun frame => (frame.1.selecting frame.2, t.retreat.saved) := by
  obtain ⟨newest, size, hsize⟩ := c
  cases h
  exact t.retryFrom_saved hsize

namespace Problem

variable {p : Problem} {r r' : Run} {s : Snapshot} {i : Nat} {t : Trail} {o : Outcome}

/-- No checkpoint ever gives way: whenever a snapshot with a choice is reached, there is room for
it. -/
def KeepsAll (p : Problem) : Prop :=
  ∀ r next, p.Reachable r → p.Moves r.current next → next.top.isChoice = true →
    r.saved.isFull p.horizon = false

/-- With every step at most one checkpoint is added. -/
theorem size_saved_le {n : Nat} (h : p.advance n p.start = .running r) : r.saved.size ≤ n + 1 := by
  induction n generalizing r with
  | zero =>
    cases h
    simp only [start]
    split
    · rw [Checkpoints.size_eq, Checkpoints.newestFirst_record, List.length_take]
      exact Nat.min_le_right _ _
    · exact Nat.zero_le 1
  | succ n ih =>
    obtain ⟨r₁, hr₁, htakes⟩ := exists_takes_of_running h
    have hsize := ih hr₁
    cases htakes with
    | move _ =>
      dsimp only
      split
      · rw [Checkpoints.size_eq, Checkpoints.newestFirst_record, List.length_take,
          List.length_cons, ← Checkpoints.size_eq]
        omega
      · omega
    | nextCandidate => exact Nat.le_succ_of_le hsize
    | backtrack _ _ hretry =>
      obtain ⟨dropped, s, rest, hsplit, -, -, hnewest⟩ := Checkpoints.retryFrom_eq_some hretry
      have hlength := congrArg List.length hsplit
      simp only [← Checkpoints.size_eq, List.length_append, List.length_cons] at hlength
      rw [Checkpoints.size_eq, hnewest, List.length_cons]
      omega

/-- A search that ends in fewer steps than the horizon allows checkpoints keeps them all. -/
theorem keepsAll_of_ended {n : Nat} (h : p.advance n p.start = .ended o) (hn : n < p.horizon) :
    p.KeepsAll := by
  rintro r next ⟨k, hk⟩ - -
  have hsize := size_saved_le hk
  have hkn := lt_of_ended hk h
  simp only [Checkpoints.isFull, decide_eq_false_iff_not]
  omega

/-- The search works on the first candidate of a trail and has saved the snapshots on it that can be
returned to. -/
structure Follows (t : Trail) (r : Run) : Prop where
  current : t.head?.map (fun frame => frame.1.selecting frame.2) = some r.current
  saved : r.saved.newestFirst = t.saved

/-- A move needs a candidate. -/
theorem Moves.lt_length {next : Snapshot} (h : p.Moves (s.selecting i) next) :
    i < s.top.untried.length := by
  have hne : (s.selecting i).top.selected ≠ none := by
    cases h with
    | shift hselected => simp [hselected]
    | reduce hselected => simp [hselected]
  refine Nat.lt_of_not_le fun hle => hne ?_
  simp [Snapshot.selecting, Entry.selected, hle]

/-- A move leads to an entry with candidates. -/
theorem Moves.untried_ne_nil {next : Snapshot} (h : p.Moves s next) : next.top.untried ≠ [] := by
  cases h with
  | shift _ _ _ _ hne => exact hne
  | reduce _ _ _ _ _ _ hne => exact hne

/-- A candidate whose action does not apply leads nowhere. -/
theorem branch_eq_none_of_stuck {event : Option Event}
    (h : p.attempt (s.selecting i) = .ok (.stuck event)) : p.branch s i = none := by
  simp [branch, h]

theorem onTrail_start (p : Problem) : p.OnTrail [(p.root, 0)] :=
  .root (.inr rfl) fun j hj => absurd hj (Nat.not_lt_zero j)

theorem follows_start (hhorizon : 0 < p.horizon) : Follows [(p.root, 0)] p.start := by
  refine ⟨rfl, ?_⟩
  simp only [start, Trail.saved, List.filter_cons, List.filter_nil, root]
  split
  next hchoice =>
    rw [Checkpoints.newestFirst_record, List.take_of_length_le]
    · rfl
    · exact hhorizon
  next => rfl

/-- Room for one more checkpoint is used for it. -/
theorem newestFirst_record_of_not_isFull {c : Checkpoints} {horizon : Nat} {s : Snapshot}
    (h : c.isFull horizon = false) : (c.record horizon s).newestFirst = s :: c.newestFirst := by
  have hroom : c.size < horizon := by simpa [Checkpoints.isFull] using h
  rw [Checkpoints.newestFirst_record, List.take_of_length_le]
  rw [List.length_cons, ← c.size_eq]
  exact hroom

/-- One step of the search is one step of its trail, and leads to a later address. -/
theorem Follows.takes (hfollows : Follows t r) (ht : p.OnTrail t) (hhorizon : 0 < p.horizon)
    (hkeeps : p.KeepsAll) (hr : p.Reachable r) (htakes : p.Takes r r') :
    p.OnTrail (p.forward t) ∧ Follows (p.forward t) r' ∧
      Trail.address t < Trail.address (p.forward t) := by
  obtain ⟨s, i, below, rfl⟩ := ht.exists_cons
  have hcurrent : s.selecting i = r.current := by simpa using hfollows.current
  cases htakes with
  | @move next hmoves =>
    have hlt : i < s.top.untried.length := Moves.lt_length (hcurrent ▸ hmoves)
    have hbranch : p.branch s i = some (.node next) := branch_node_iff.2 ⟨hlt, hcurrent ▸ hmoves⟩
    have hforward : p.forward ((s, i) :: below) = (next, 0) :: (s, i) :: below := by
      simp [forward, hbranch]
    rw [hforward]
    refine ⟨?_, ⟨rfl, ?_⟩, ?_⟩
    · exact .child ht hbranch (List.length_pos_iff.2 hmoves.untried_ne_nil)
        fun j hj => absurd hj (Nat.not_lt_zero j)
    · by_cases hchoice : next.top.isChoice = true
      · have hroom := hkeeps r next hr hmoves hchoice
        have hsaved : Trail.saved ((next, 0) :: (s, i) :: below) =
            next :: Trail.saved ((s, i) :: below) := by
          simp [Trail.saved, hchoice, selecting_zero]
        rw [hsaved, ← hfollows.saved, if_pos hchoice]
        exact newestFirst_record_of_not_isFull hroom
      · have hsaved : Trail.saved ((next, 0) :: (s, i) :: below) =
            Trail.saved ((s, i) :: below) := by
          simp [Trail.saved, hchoice]
        rw [hsaved, ← hfollows.saved, if_neg hchoice]
    · rw [Trail.address_cons next]
      conv_lhs => rw [← List.append_nil (Trail.address ((s, i) :: below))]
      exact List.append_left_lt (List.nil_lt_cons 0 [])
  | nextCandidate _ hzero => omega
  | backtrack hstuck _ hretry =>
    have hbranch : p.branch s i = none := branch_eq_none_of_stuck (hcurrent ▸ hstuck)
    have hforward : p.forward ((s, i) :: below) = Trail.retreat ((s, i) :: below) := by
      simp [forward, hbranch]
    have hmap := Trail.retry_eq hfollows.saved
    rw [hretry, Option.map_some] at hmap
    obtain ⟨frame, hframe, hfound⟩ := Option.map_eq_some_iff.1 hmap.symm
    have hne : Trail.retreat ((s, i) :: below) ≠ [] := by
      intro hnil
      simp [hnil] at hframe
    obtain ⟨rfl, hnewest⟩ := Prod.mk.inj hfound
    rw [hforward]
    refine ⟨?_, ⟨by rw [hframe]; rfl, hnewest.symm⟩, Trail.address_lt_retreat hne⟩
    exact (ht.retreat (by simp [Spent, hbranch])).resolve_right fun h => hne h.1

end Problem

end BranchLR
