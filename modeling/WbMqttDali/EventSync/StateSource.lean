import WbMqttDali.EventSync.Controls

/-!
# The source of a group's state controls

For each state control of a group, `GroupStateSource` pins the member whose answers the group
takes.  An error of the pinned member unpins it, and only when the last answer of every
candidate is an error the group shows one.  The candidate lists are replaced in place when
the members of the group change.
-/

namespace WbMqttDali.EventSync

/-- One control of `update_candidates`. -/
def PerControlState.updateCandidates (book : PerControlState) (newUids : List Uid) :
    PerControlState :=
  let survivors := (book.candidateStatuses.keys.filter (· ∉ newUids)).foldl Dict.erase
    book.candidateStatuses
  { book with
    candidateStatuses := newUids.foldl (Dict.setDefault none) survivors
    pinnedSource := book.pinnedSource.filter (· ∈ newUids) }

namespace GroupStateSource

/-- `__init__` -/
def make (candidates : Dict ControlId (List Uid)) : GroupStateSource :=
  candidates.mapValues fun uids =>
    { candidateStatuses := uids.foldl (fun statuses uid => statuses.set uid none) ∅
      pinnedSource := none
      errPublished := false }

def isErrSet (source : GroupStateSource) (controlId : ControlId) : Bool :=
  (source.get? controlId).any (·.errPublished)

/-- `update_candidates`, for the same controls. -/
def updateCandidates (source : GroupStateSource) (newCandidates : Dict ControlId (List Uid)) :
    GroupStateSource :=
  source.mapWithKey fun controlId book =>
    book.updateCandidates ((newCandidates.get? controlId).getD [])

end GroupStateSource

/-! ### What a source is used for -/

/-- A use of a source. -/
inductive SourceUse
  | answer (uid : Uid) (controlId : ControlId) (success : Bool)
  | update (newCandidates : Dict ControlId (List Uid))
  deriving DecidableEq

/-- The source after the uses, of which the last one comes first. -/
def sourceAfter (initial : Dict ControlId (List Uid)) : List SourceUse → GroupStateSource
  | [] => .make initial
  | .answer uid controlId success :: earlier =>
    ((sourceAfter initial earlier).recordAnswer uid controlId success).1
  | .update newCandidates :: earlier =>
    (sourceAfter initial earlier).updateCandidates newCandidates

/-- What the uses for a control have returned, with the last one first. -/
def returned (initial : Dict ControlId (List Uid)) (controlId : ControlId) :
    List SourceUse → List MemberAnswer
  | [] => []
  | .answer uid id success :: earlier =>
    if id = controlId then
      ((sourceAfter initial earlier).recordAnswer uid id success).2 ::
        returned initial controlId earlier
    else returned initial controlId earlier
  | .update _ :: earlier => returned initial controlId earlier

/-- The candidates of a control after the uses. -/
def candidatesAfter (initial : Dict ControlId (List Uid)) (controlId : ControlId) :
    List SourceUse → List Uid
  | [] => (initial.get? controlId).getD []
  | .answer .. :: earlier => candidatesAfter initial controlId earlier
  | .update newCandidates :: _ => (newCandidates.get? controlId).getD []

/-- The last answer that a candidate of a control has given since it became one. -/
def lastAnswer (initial : Dict ControlId (List Uid)) (controlId : ControlId) (uid : Uid) :
    List SourceUse → Option Bool
  | [] => none
  | .answer uid' id success :: earlier =>
    if uid' = uid ∧ id = controlId ∧ uid ∈ candidatesAfter initial controlId earlier then
      some success
    else lastAnswer initial controlId uid earlier
  | .update newCandidates :: earlier =>
    if uid ∈ (newCandidates.get? controlId).getD [] then lastAnswer initial controlId uid earlier
    else none

/-- An answer as it is recorded. -/
def CandidatePollStatus.ofSuccess (success : Bool) : CandidatePollStatus :=
  if success then .success else .error

/-! ### One control -/

namespace PerControlState

variable {book : PerControlState} {uid : Uid}

lemma get?_updateCandidates {newUids : List Uid} :
    (book.updateCandidates newUids).candidateStatuses.get? uid =
      if uid ∈ newUids then (book.candidateStatuses.get? uid).or (some none) else none := by
  show (newUids.foldl (Dict.setDefault none) _).get? uid = _
  rw [Dict.get?_foldl_setDefault, Dict.get?_foldl_erase]
  by_cases hmem : uid ∈ newUids
  · simp [hmem]
  · simp only [List.mem_filter, decide_eq_true_eq, hmem, not_false_iff, and_true, if_false,
      Option.or_none]
    split
    · rfl
    · next hkey => exact Dict.get?_eq_none_iff.2 hkey

lemma allErrored_iff : book.allErrored = true ↔ book.candidateStatuses.size ≠ 0 ∧
    ∀ uid status, book.candidateStatuses.get? uid = some status → status = some .error := by
  simp only [allErrored, Bool.and_eq_true, decide_eq_true_eq, List.all_eq_true, Dict.mem_values_iff]
  refine and_congr_right fun _ => ⟨fun h uid status hstatus => h status ⟨uid, hstatus⟩, ?_⟩
  rintro h status ⟨uid, hstatus⟩
  exact h uid status hstatus

/-- The pinned source answered last with a success, and no error is set then; an error is set only
while no candidate's last answer is a success. -/
structure Inv (book : PerControlState) : Prop where
  pinned : ∀ uid, book.pinnedSource = some uid →
    book.candidateStatuses.get? uid = some (some .success) ∧ book.errPublished = false
  err : book.errPublished = true → ∀ uid, book.candidateStatuses.get? uid ≠ some (some .success)

lemma Inv.updateCandidates {newUids : List Uid} (h : book.Inv) :
    (book.updateCandidates newUids).Inv where
  pinned uid hpinned := by
    obtain ⟨hpinned, hmem⟩ := Option.filter_eq_some_iff.1 hpinned
    rw [get?_updateCandidates, if_pos (of_decide_eq_true hmem), (h.pinned uid hpinned).1]
    exact ⟨rfl, (h.pinned uid hpinned).2⟩
  err herr uid := by
    rw [get?_updateCandidates]
    split
    · have := h.err herr uid
      cases hstatus : book.candidateStatuses.get? uid with
      | none => simp
      | some status => simpa [hstatus] using this
    · simp

/-- One control of `record_answer`, for one of its candidates. -/
def record (book : PerControlState) (uid : Uid) (success : Bool) :
    PerControlState × MemberAnswer :=
  let statuses := book.candidateStatuses.set uid (some (if success then .success else .error))
  if book.pinnedSource ≠ none ∧ book.pinnedSource ≠ some uid then
    ({ book with candidateStatuses := statuses }, .hold)
  else if success then (⟨statuses, some uid, false⟩, .take)
  else
    let unpinned : PerControlState := ⟨statuses, none, book.errPublished⟩
    if unpinned.allErrored ∧ !book.errPublished then (⟨statuses, none, true⟩, .showError)
    else (unpinned, .hold)

@[simp] lemma candidateStatuses_record {success : Bool} :
    (book.record uid success).1.candidateStatuses =
      book.candidateStatuses.set uid (some (.ofSuccess success)) := by
  unfold record
  dsimp only
  split
  · rfl
  · cases success with
    | true => rfl
    | false =>
      rw [if_neg Bool.false_ne_true, if_neg Bool.false_ne_true]
      split <;> rfl

/-- What `record_answer` does: another candidate leads, the answer is taken, or an error is shown
or not. -/
lemma record_cases (book : PerControlState) (uid : Uid) (success : Bool) :
    (∃ other ≠ uid, book.pinnedSource = some other ∧
        (book.record uid success).1.pinnedSource = some other ∧
        (book.record uid success).1.errPublished = book.errPublished ∧
        (book.record uid success).2 = .hold) ∨
      (success = true ∧ (book.record uid success).1.pinnedSource = some uid ∧
        (book.record uid success).1.errPublished = false ∧
        (book.record uid success).2 = .take) ∨
      (success = false ∧ (book.record uid success).1.pinnedSource = none ∧
        (((book.record uid success).1.allErrored = true ∧ book.errPublished = false ∧
            (book.record uid success).1.errPublished = true ∧
            (book.record uid success).2 = .showError) ∨
          (((book.record uid success).1.allErrored = true → book.errPublished = true) ∧
            (book.record uid success).1.errPublished = book.errPublished ∧
            (book.record uid success).2 = .hold))) := by
  unfold record
  dsimp only
  split
  case isTrue hother =>
    obtain ⟨other, hpinned⟩ := Option.ne_none_iff_exists'.1 hother.1
    refine .inl ⟨other, fun heq => hother.2 (heq ▸ hpinned), hpinned, hpinned, rfl, rfl⟩
  case isFalse =>
    cases success with
    | true => exact .inr (.inl ⟨rfl, rfl, rfl, rfl⟩)
    | false =>
      refine .inr (.inr ?_)
      rw [if_neg Bool.false_ne_true, if_neg Bool.false_ne_true]
      split
      case isTrue hall =>
        exact ⟨rfl, rfl, .inl ⟨hall.1, by simpa using hall.2, rfl, rfl⟩⟩
      case isFalse hall =>
        refine ⟨rfl, rfl, .inr ⟨fun herrored => ?_, rfl, rfl⟩⟩
        by_contra herr
        exact hall ⟨herrored, by simpa using herr⟩

lemma get?_record {success : Bool} {other : Uid} :
    (book.record uid success).1.candidateStatuses.get? other =
      if other = uid then some (some (.ofSuccess success))
      else book.candidateStatuses.get? other := by
  rw [candidateStatuses_record, Dict.get?_set]

lemma Inv.record {success : Bool} (h : book.Inv) : (book.record uid success).1.Inv := by
  rcases record_cases book uid success with
    ⟨other, hne, hpinned, hpinned', herr', -⟩ | ⟨rfl, hpinned', herr', -⟩ |
    ⟨rfl, hpinned', ⟨hall, -, -, -⟩ | ⟨-, herr', -⟩⟩
  · obtain ⟨hsuccess, herr⟩ := h.pinned other hpinned
    refine ⟨fun uid' huid' => ?_, fun htrue => ?_⟩
    · obtain rfl : other = uid' := Option.some.inj (hpinned'.symm.trans huid')
      rw [get?_record, if_neg hne, herr']
      exact ⟨hsuccess, herr⟩
    · rw [herr', herr] at htrue
      cases htrue
  · refine ⟨fun uid' huid' => ?_, fun htrue => ?_⟩
    · obtain rfl : uid = uid' := Option.some.inj (hpinned'.symm.trans huid')
      rw [get?_record, if_pos rfl]
      exact ⟨rfl, herr'⟩
    · rw [herr'] at htrue
      cases htrue
  · refine ⟨fun uid' huid' => ?_, fun _ uid' hsuccess => ?_⟩
    · rw [hpinned'] at huid'
      cases huid'
    · cases (allErrored_iff.1 hall).2 uid' _ hsuccess
  · refine ⟨fun uid' huid' => ?_, fun htrue uid' => ?_⟩
    · rw [hpinned'] at huid'
      cases huid'
    · rw [get?_record]
      split
      · simp [CandidatePollStatus.ofSuccess]
      · exact h.err (herr' ▸ htrue) uid'

/-- An answer after which every candidate's last one is an error leaves an error set. -/
lemma Inv.errPublished_record {success : Bool} (h : book.Inv)
    (hall : (book.record uid success).1.allErrored = true) :
    (book.record uid success).1.errPublished = true := by
  have herrored := (allErrored_iff.1 hall).2
  rcases record_cases book uid success with
    ⟨other, hne, hpinned, -, -, -⟩ | ⟨rfl, -, -, -⟩ | ⟨-, -, ⟨-, -, herr', -⟩ | ⟨herr, herr', -⟩⟩
  · -- the candidate that leads has answered with a success
    have hother :=
      herrored other _ (get?_record.trans (if_neg hne |>.trans (h.pinned other hpinned).1))
    cases hother
  · cases herrored uid _ (get?_record.trans (if_pos rfl))
  · exact herr'
  · exact herr'.trans (herr hall)

end PerControlState

lemma GroupStateSource.recordAnswer_eq {source : GroupStateSource} {uid : Uid}
    {controlId : ControlId} {success : Bool} {book : PerControlState}
    (hbook : source.get? controlId = some book) :
    source.recordAnswer uid controlId success =
      if uid ∈ book.candidateStatuses.keys then
        (source.set controlId (book.record uid success).1, (book.record uid success).2)
      else (source, .hold) := by
  unfold GroupStateSource.recordAnswer PerControlState.record
  rw [hbook]
  dsimp only
  by_cases hkey : uid ∈ book.candidateStatuses.keys
  · rw [if_neg (not_not.2 hkey), if_pos hkey]
    cases success with
    | true =>
      by_cases hother : book.pinnedSource ≠ none ∧ book.pinnedSource ≠ some uid
      · simp [hother]
      · rw [if_neg hother, if_neg hother]
        rfl
    | false =>
      by_cases hother : book.pinnedSource ≠ none ∧ book.pinnedSource ≠ some uid
      · simp [hother]
      · rw [if_neg hother, if_neg hother, if_neg Bool.false_ne_true, if_neg Bool.false_ne_true,
          if_neg Bool.false_ne_true]
        split <;> rfl
  · rw [if_pos hkey, if_neg hkey]

/-! ### What is returned -/

/-- An error that was shown has been cleared by a TAKE. -/
def Cleared (answers : List MemberAnswer) : Prop :=
  ∀ since before, answers = since ++ .showError :: before → .take ∈ since

/-- At most one error is shown between two TAKEs. -/
def ShowsErrorOnce (answers : List MemberAnswer) : Prop :=
  ∀ later between before,
    answers = later ++ .showError :: (between ++ .showError :: before) → .take ∈ between

section Answers

variable {answer : MemberAnswer} {answers : List MemberAnswer}

lemma exists_of_cons_eq {since before : List MemberAnswer}
    (heq : answer :: answers = since ++ .showError :: before) (hne : answer ≠ .showError) :
    ∃ since', since = answer :: since' ∧ answers = since' ++ .showError :: before := by
  rcases List.cons_eq_append_iff.1 heq with ⟨-, hcons⟩ | ⟨since', rfl, htail⟩
  · exact absurd (List.cons.inj hcons).1.symm hne
  · exact ⟨since', rfl, htail⟩

lemma cleared_take : Cleared (.take :: answers) := by
  intro since before heq
  obtain ⟨since', rfl, -⟩ := exists_of_cons_eq heq nofun
  exact List.mem_cons_self

lemma Cleared.hold (h : Cleared answers) : Cleared (.hold :: answers) := by
  intro since before heq
  obtain ⟨since', rfl, htail⟩ := exists_of_cons_eq heq nofun
  exact List.mem_cons_of_mem _ (h since' before htail)

lemma ShowsErrorOnce.cons (h : ShowsErrorOnce answers) (hne : answer ≠ .showError) :
    ShowsErrorOnce (answer :: answers) := by
  intro later between before heq
  obtain ⟨later', rfl, htail⟩ := exists_of_cons_eq heq hne
  exact h later' between before htail

/-- An error is shown when the one before it has been cleared. -/
lemma ShowsErrorOnce.showError (h : ShowsErrorOnce answers) (hcleared : Cleared answers) :
    ShowsErrorOnce (.showError :: answers) := by
  intro later between before heq
  rcases List.cons_eq_append_iff.1 heq with ⟨-, hcons⟩ | ⟨later', -, htail⟩
  · exact hcleared between before (List.cons.inj hcons).2.symm
  · exact h later' between before htail

end Answers

/-! ### Runs -/

section Runs

variable {initial : Dict ControlId (List Uid)} {controlId : ControlId} {uses : List SourceUse}

/-- What the book of a control is after the uses, and what they have returned for it. -/
structure Recorded (initial : Dict ControlId (List Uid)) (controlId : ControlId)
    (uses : List SourceUse) (book : PerControlState) : Prop where
  get?_eq : (sourceAfter initial uses).get? controlId = some book
  inv : book.Inv
  status : ∀ uid, book.candidateStatuses.get? uid =
    if uid ∈ candidatesAfter initial controlId uses then
      some ((lastAnswer initial controlId uid uses).map CandidatePollStatus.ofSuccess)
    else none
  cleared : book.errPublished = false → Cleared (returned initial controlId uses)
  once : ShowsErrorOnce (returned initial controlId uses)

lemma get?_foldl_set_none {uids : List Uid} {uid : Uid}
    {statuses : Dict Uid (Option CandidatePollStatus)} :
    (uids.foldl (fun statuses uid => statuses.set uid none) statuses).get? uid =
      if uid ∈ uids then some none else statuses.get? uid := by
  induction uids generalizing statuses with
  | nil => rfl
  | cons uid' uids ih =>
    rw [List.foldl_cons, ih, Dict.get?_set]
    by_cases hmem : uid ∈ uids
    · simp [hmem]
    · by_cases heq : uid = uid' <;> simp [hmem, heq]

lemma Recorded.make (h : controlId ∈ initial.keys) :
    ∃ book, Recorded initial controlId [] book := by
  obtain ⟨uids, huids⟩ := Dict.mem_keys_iff.1 h
  refine ⟨⟨uids.foldl (fun statuses uid => statuses.set uid none) ∅, none, false⟩, ?_⟩
  refine ⟨?_, ⟨nofun, nofun⟩, fun uid => ?_, fun _ since before heq => ?_,
    fun later between before heq => ?_⟩
  · refine Dict.get?_eq_some_iff.2 (List.mem_map.2 ⟨(controlId, uids), ?_, rfl⟩)
    exact Dict.get?_eq_some_iff.1 huids
  · show Dict.get? _ uid = if uid ∈ (initial.get? controlId).getD [] then some none else none
    rw [get?_foldl_set_none, huids]
    rfl
  · exact absurd heq.symm (by simp [returned])
  · exact absurd heq.symm (by simp [returned])

variable {book : PerControlState}

/-- What is not a candidate has no last answer. -/
lemma lastAnswer_eq_none {uid : Uid} (h : uid ∉ candidatesAfter initial controlId uses) :
    lastAnswer initial controlId uid uses = none := by
  induction uses with
  | nil => rfl
  | cons use earlier ih =>
    cases use with
    | answer uid' id success =>
      rw [lastAnswer, if_neg fun hanswer => h hanswer.2.2]
      exact ih h
    | update newCandidates => exact if_neg h

lemma Recorded.update (h : Recorded initial controlId uses book)
    (newCandidates : Dict ControlId (List Uid)) :
    Recorded initial controlId (.update newCandidates :: uses)
      (book.updateCandidates ((newCandidates.get? controlId).getD [])) where
  get?_eq := by
    show (Dict.mapWithKey _ _).get? controlId = _
    rw [Dict.get?_mapWithKey, h.get?_eq]
    rfl
  inv := h.inv.updateCandidates
  status uid := by
    rw [PerControlState.get?_updateCandidates, h.status, candidatesAfter, lastAnswer]
    by_cases hnew : uid ∈ (newCandidates.get? controlId).getD []
    · by_cases hold : uid ∈ candidatesAfter initial controlId uses
      · simp [hnew, hold]
      · simp [hnew, hold, lastAnswer_eq_none hold]
    · simp [hnew]
  cleared := h.cleared
  once := h.once

lemma Recorded.mem_keys_iff {uid : Uid} (h : Recorded initial controlId uses book) :
    uid ∈ book.candidateStatuses.keys ↔ uid ∈ candidatesAfter initial controlId uses := by
  rw [Dict.mem_keys_iff, h.status]
  split
  · next hmem => exact iff_of_true ⟨_, rfl⟩ hmem
  · next hmem => exact iff_of_false (fun ⟨_, hnone⟩ => nomatch hnone) hmem

lemma returned_ignored {uid : Uid} {id : ControlId} {success : Bool}
    (h : Recorded initial controlId uses book)
    (hignored : id ≠ controlId ∨ uid ∉ candidatesAfter initial controlId uses) :
    returned initial controlId (.answer uid id success :: uses) =
        returned initial controlId uses ∨
      returned initial controlId (.answer uid id success :: uses) =
        .hold :: returned initial controlId uses := by
  rw [returned]
  split
  case isFalse => exact .inl rfl
  case isTrue hid =>
    subst hid
    rw [GroupStateSource.recordAnswer_eq h.get?_eq,
      if_neg (h.mem_keys_iff.not.2 (hignored.resolve_left fun hne => hne rfl))]
    exact .inr rfl

/-- Answers for other controls, and of what is not a candidate, change nothing. -/
lemma Recorded.ignored {uid : Uid} {id : ControlId} {success : Bool}
    (h : Recorded initial controlId uses book)
    (hignored : id ≠ controlId ∨ uid ∉ candidatesAfter initial controlId uses) :
    Recorded initial controlId (.answer uid id success :: uses) book where
  get?_eq := by
    show ((sourceAfter initial uses).recordAnswer uid id success).1.get? controlId = some book
    cases hother : (sourceAfter initial uses).get? id with
    | none => simp [GroupStateSource.recordAnswer, hother, h.get?_eq]
    | some other =>
      rw [GroupStateSource.recordAnswer_eq hother]
      split
      case isFalse => exact h.get?_eq
      case isTrue hkey =>
        have hid : id ≠ controlId := by
          rintro rfl
          obtain rfl : other = book := Option.some.inj (hother.symm.trans h.get?_eq)
          exact hignored.elim (fun hne => hne rfl) fun hnot => hnot (h.mem_keys_iff.1 hkey)
        exact (Dict.get?_set_of_ne _ _ hid.symm).trans h.get?_eq
  inv := h.inv
  status uid' := by
    rw [h.status, candidatesAfter, lastAnswer]
    by_cases hmem : uid' ∈ candidatesAfter initial controlId uses
    · have : ¬(uid = uid' ∧ id = controlId ∧ uid' ∈ candidatesAfter initial controlId uses) := by
        rintro ⟨rfl, rfl, -⟩
        exact hignored.elim (fun hne => hne rfl) fun hnot => hnot hmem
      rw [if_pos hmem, if_pos hmem, if_neg this]
    · rw [if_neg hmem, if_neg hmem]
  cleared herr := by
    rcases returned_ignored h hignored with heq | heq
    · rw [heq]
      exact h.cleared herr
    · rw [heq]
      exact (h.cleared herr).hold
  once := by
    rcases returned_ignored h hignored with heq | heq
    · rw [heq]
      exact h.once
    · rw [heq]
      exact h.once.cons (by simp)

/-- The answer of a candidate. -/
lemma Recorded.answer {uid : Uid} {success : Bool} (h : Recorded initial controlId uses book)
    (hcandidate : uid ∈ candidatesAfter initial controlId uses) :
    Recorded initial controlId (.answer uid controlId success :: uses)
      (book.record uid success).1 := by
  have hkey := h.mem_keys_iff.2 hcandidate
  have hreturned : returned initial controlId (.answer uid controlId success :: uses) =
      (book.record uid success).2 :: returned initial controlId uses := by
    rw [returned, if_pos rfl, GroupStateSource.recordAnswer_eq h.get?_eq, if_pos hkey]
  refine ⟨?_, h.inv.record, fun uid' => ?_, fun herr => ?_, ?_⟩
  · show ((sourceAfter initial uses).recordAnswer uid controlId success).1.get? controlId = _
    rw [GroupStateSource.recordAnswer_eq h.get?_eq, if_pos hkey]
    exact Dict.get?_set_self _ _ _
  · rw [PerControlState.get?_record, h.status, candidatesAfter, lastAnswer]
    by_cases heq : uid' = uid
    · subst heq
      simp [hcandidate]
    · simp [heq, Ne.symm heq]
  · rw [hreturned]
    rcases PerControlState.record_cases book uid success with
      ⟨-, -, -, -, herr', hhold⟩ | ⟨-, -, -, htake⟩ |
      ⟨-, -, ⟨-, -, herr', -⟩ | ⟨-, herr', hhold⟩⟩
    · rw [hhold]
      exact (h.cleared (herr' ▸ herr)).hold
    · rw [htake]
      exact cleared_take
    · exact absurd (herr'.symm.trans herr) nofun
    · rw [hhold]
      exact (h.cleared (herr' ▸ herr)).hold
  · rw [hreturned]
    rcases PerControlState.record_cases book uid success with
      ⟨-, -, -, -, -, hhold⟩ | ⟨-, -, -, htake⟩ |
      ⟨-, -, ⟨-, herr, -, hshow⟩ | ⟨-, -, hhold⟩⟩
    · rw [hhold]
      exact h.once.cons nofun
    · rw [htake]
      exact h.once.cons nofun
    · rw [hshow]
      exact h.once.showError (h.cleared herr)
    · rw [hhold]
      exact h.once.cons nofun

lemma exists_recorded (h : controlId ∈ initial.keys) (uses : List SourceUse) :
    ∃ book, Recorded initial controlId uses book := by
  induction uses with
  | nil => exact Recorded.make h
  | cons use earlier ih =>
    obtain ⟨book, hbook⟩ := ih
    cases use with
    | update newCandidates => exact ⟨_, hbook.update newCandidates⟩
    | answer uid id success =>
      by_cases hid : id = controlId
      · subst hid
        by_cases hcandidate : uid ∈ candidatesAfter initial id earlier
        · exact ⟨_, hbook.answer hcandidate⟩
        · exact ⟨book, hbook.ignored (.inr hcandidate)⟩
      · exact ⟨book, hbook.ignored (.inl hid)⟩

/-- `GroupStateSource` follows its rule. -/
structure FollowsRule (initial : Dict ControlId (List Uid)) (controlId : ControlId)
    (uses : List SourceUse) : Prop where
  pinned : ∀ uid, (sourceAfter initial uses).pinnedSource controlId = some uid →
    uid ∈ candidatesAfter initial controlId uses ∧
      lastAnswer initial controlId uid uses = some true ∧
        (sourceAfter initial uses).isErrSet controlId = false
  errSet : (sourceAfter initial uses).isErrSet controlId = true →
    ∀ uid ∈ candidatesAfter initial controlId uses,
      lastAnswer initial controlId uid uses ≠ some true
  take : ∀ uid success,
    ((sourceAfter initial uses).recordAnswer uid controlId success).2 = .take →
      (sourceAfter initial (.answer uid controlId success :: uses)).pinnedSource controlId =
        some uid
  showError : ∀ uid success,
    ((sourceAfter initial uses).recordAnswer uid controlId success).2 = .showError →
      ∀ other ∈ candidatesAfter initial controlId (.answer uid controlId success :: uses),
        lastAnswer initial controlId other (.answer uid controlId success :: uses) = some false
  once : ShowsErrorOnce (returned initial controlId uses)
  allErrors : ∀ uid ∈ candidatesAfter initial controlId uses, ∀ success,
    (∀ other ∈ candidatesAfter initial controlId (.answer uid controlId success :: uses),
      lastAnswer initial controlId other (.answer uid controlId success :: uses) = some false) →
    (sourceAfter initial (.answer uid controlId success :: uses)).isErrSet controlId = true

lemma Recorded.pinnedSource_eq (h : Recorded initial controlId uses book) :
    (sourceAfter initial uses).pinnedSource controlId = book.pinnedSource := by
  rw [GroupStateSource.pinnedSource, h.get?_eq]
  rfl

lemma Recorded.isErrSet_eq (h : Recorded initial controlId uses book) :
    (sourceAfter initial uses).isErrSet controlId = book.errPublished := by
  rw [GroupStateSource.isErrSet, h.get?_eq]
  rfl

/-- A candidate is recorded with its last answer. -/
lemma Recorded.status_eq_iff {uid : Uid} (success : Bool)
    (h : Recorded initial controlId uses book) :
    book.candidateStatuses.get? uid = some (some (.ofSuccess success)) ↔
      uid ∈ candidatesAfter initial controlId uses ∧
        lastAnswer initial controlId uid uses = some success := by
  rw [h.status]
  by_cases hmem : uid ∈ candidatesAfter initial controlId uses
  · rw [if_pos hmem, Option.some.injEq, Option.map_eq_some_iff]
    constructor
    · rintro ⟨success', hlast, heq⟩
      have : success' = success := by
        cases success <;> cases success' <;> first | rfl | cases heq
      exact ⟨hmem, this ▸ hlast⟩
    · rintro ⟨-, hlast⟩
      exact ⟨success, hlast, rfl⟩
  · rw [if_neg hmem]
    exact iff_of_false nofun fun h => hmem h.1

lemma Recorded.allErrored_iff (h : Recorded initial controlId uses book) :
    book.allErrored = true ↔ candidatesAfter initial controlId uses ≠ [] ∧
      ∀ uid ∈ candidatesAfter initial controlId uses,
        lastAnswer initial controlId uid uses = some false := by
  rw [PerControlState.allErrored_iff]
  have hsize : book.candidateStatuses.size ≠ 0 ↔ candidatesAfter initial controlId uses ≠ [] := by
    rw [← Dict.length_keys, not_iff_not, List.length_eq_zero_iff]
    constructor
    · intro hkeys
      refine List.eq_nil_iff_forall_not_mem.2 fun uid hmem => ?_
      rw [← h.mem_keys_iff, hkeys] at hmem
      cases hmem
    · intro hnil
      refine List.eq_nil_iff_forall_not_mem.2 fun uid hmem => ?_
      rw [h.mem_keys_iff, hnil] at hmem
      cases hmem
  refine and_congr hsize ⟨fun hall uid hmem => ?_, fun hall uid status hstatus => ?_⟩
  · obtain ⟨status, hstatus⟩ := Dict.mem_keys_iff.1 (h.mem_keys_iff.2 hmem)
    exact ((h.status_eq_iff false).1 (hstatus.trans (congrArg some (hall uid status hstatus)))).2
  · have hmem := h.mem_keys_iff.1 (Dict.mem_keys_iff.2 ⟨status, hstatus⟩)
    exact Option.some.inj (hstatus.symm.trans ((h.status_eq_iff false).2 ⟨hmem, hall uid hmem⟩))

/-- For every control, whatever the uses and their order. -/
theorem followsRule (initial : Dict ControlId (List Uid)) (controlId : ControlId)
    (h : controlId ∈ initial.keys) (uses : List SourceUse) :
    FollowsRule initial controlId uses := by
  obtain ⟨book, hbook⟩ := exists_recorded h uses
  -- what is not a candidate only gets HOLD
  have hcandidate {uid : Uid} {success : Bool}
      (hanswer : ((sourceAfter initial uses).recordAnswer uid controlId success).2 ≠ .hold) :
      uid ∈ candidatesAfter initial controlId uses ∧
        (book.record uid success).2 =
          ((sourceAfter initial uses).recordAnswer uid controlId success).2 := by
    rw [GroupStateSource.recordAnswer_eq hbook.get?_eq] at hanswer ⊢
    split at hanswer
    case isTrue hkey =>
      rw [if_pos hkey]
      exact ⟨hbook.mem_keys_iff.1 hkey, rfl⟩
    case isFalse => exact absurd rfl hanswer
  refine ⟨fun uid hpinned => ?_, fun herr uid hmem hlast => ?_, fun uid success htake => ?_,
    fun uid success hshow => ?_, hbook.once, fun uid hmem success hall => ?_⟩
  · rw [hbook.pinnedSource_eq] at hpinned
    obtain ⟨hstatus, herr⟩ := hbook.inv.pinned uid hpinned
    obtain ⟨hmem, hlast⟩ := (hbook.status_eq_iff true).1 hstatus
    exact ⟨hmem, hlast, hbook.isErrSet_eq.trans herr⟩
  · rw [hbook.isErrSet_eq] at herr
    exact hbook.inv.err herr uid ((hbook.status_eq_iff true).2 ⟨hmem, hlast⟩)
  · obtain ⟨hmem, heq⟩ := hcandidate (ne_of_eq_of_ne htake nofun)
    rw [(hbook.answer hmem).pinnedSource_eq]
    rcases PerControlState.record_cases book uid success with
      ⟨-, -, -, -, -, hhold⟩ | ⟨-, hpinned, -, -⟩ | ⟨-, -, ⟨-, -, -, hshow⟩ | ⟨-, -, hhold⟩⟩
    · exact absurd (hhold.symm.trans (heq.trans htake)) nofun
    · exact hpinned
    · exact absurd (hshow.symm.trans (heq.trans htake)) nofun
    · exact absurd (hhold.symm.trans (heq.trans htake)) nofun
  · obtain ⟨hmem, heq⟩ := hcandidate (ne_of_eq_of_ne hshow nofun)
    rcases PerControlState.record_cases book uid success with
      ⟨-, -, -, -, -, hhold⟩ | ⟨-, -, -, htake⟩ | ⟨-, -, ⟨hall, -, -, -⟩ | ⟨-, -, hhold⟩⟩
    · exact absurd (hhold.symm.trans (heq.trans hshow)) nofun
    · exact absurd (htake.symm.trans (heq.trans hshow)) nofun
    · exact ((hbook.answer hmem).allErrored_iff.1 hall).2
    · exact absurd (hhold.symm.trans (heq.trans hshow)) nofun
  · rw [(hbook.answer hmem).isErrSet_eq]
    refine hbook.inv.errPublished_record ((hbook.answer hmem).allErrored_iff.2 ⟨?_, hall⟩)
    exact List.ne_nil_of_mem hmem

/-- The second of two lamps fails as well. -/
theorem followsRule_twoLamps :
    (sourceAfter ((∅ : Dict ControlId (List Uid)).set ControlId.actualLevel ["lamp1", "lamp2"])
      [.answer "lamp1" ControlId.actualLevel false,
        .answer "lamp2" ControlId.actualLevel false]).isErrSet
        ControlId.actualLevel = true :=
  (followsRule ((∅ : Dict ControlId (List Uid)).set ControlId.actualLevel ["lamp1", "lamp2"])
    ControlId.actualLevel
    (by decide) [.answer "lamp2" ControlId.actualLevel false]).allErrors "lamp1" (by decide) false
      (by decide)

end Runs

end WbMqttDali.EventSync
