import Silhouette.Proofs.Relay

/-! The directory of copies over a run of requests. A copy is named for the time of its request and the safe
name of the upload, and nothing else; a later copy takes the place of an earlier one with the same name,
and of no other. -/
namespace Silhouette.Relay

/-- A request at the time, in milliseconds, at which it comes. -/
structure Arrival where
  now : Nat
  request : Http.Request

/-- A request with its reply. -/
structure Served extends Arrival where
  reply : Http.Reply

/-- Answers requests one after another. -/
def serve (r : Relay) (allowed : List Http.Origin) :
    RelayState → List Arrival → List Served × RelayState
  | s, [] => ([], s)
  | s, a :: rest =>
    let answered := r.answer allowed a.now s a.request
    let later := serve r allowed answered.2 rest
    (⟨a, answered.1⟩ :: later.1, later.2)

theorem serve_pair (r : Relay) (allowed : List Http.Origin) (s : RelayState) (a b : Arrival) :
    r.serve allowed s [a, b] =
      let first := r.answer allowed a.now s a.request
      let second := r.answer allowed b.now first.2 b.request
      ([⟨a, first.1⟩, ⟨b, second.1⟩], second.2) := rfl

/-- The name under which a copy of what comes for a request is saved. -/
def copyName? (allowed : List Http.Origin) (a : Arrival) : Option String :=
  (upload? allowed a.request).map fun part => savedName a.now (uploadName part)

/-- Two requests of the same time, for uploads with the same safe name. -/
def SameStamp (allowed : List Http.Origin) (a b : Arrival) : Prop :=
  a.now = b.now ∧ ∃ part other, upload? allowed a.request = some part ∧
    upload? allowed b.request = some other ∧ safeBase (uploadName part) = safeBase (uploadName other)

theorem sameStamp_iff {a b : Arrival} {name : String} (named : copyName? allowed a = some name) :
    SameStamp allowed a b ↔ copyName? allowed b = some name := by
  obtain ⟨part, uploaded, rfl⟩ := Option.map_eq_some_iff.mp named
  constructor
  · rintro ⟨times, part', other, uploaded', uploadedOther, bases⟩
    cases uploaded.symm.trans uploaded'
    exact Option.map_eq_some_iff.mpr
      ⟨other, uploadedOther, savedName_eq_iff.mpr ⟨times.symm, bases.symm⟩⟩
  · intro same
    obtain ⟨other, uploadedOther, names⟩ := Option.map_eq_some_iff.mp same
    obtain ⟨times, bases⟩ := savedName_eq_iff.mp names
    exact ⟨times.symm, part, other, uploaded, uploadedOther, bases.symm⟩

/-! ## One request -/

/-- How answering a request ends: without a picture and with no file touched, or with a picture and its
copy at the place that its name leads to. -/
inductive Answering (r : Relay) (allowed : List Http.Origin) (a : Arrival) (files : FileTree) :
    Http.Reply → FileTree → Prop where
  | plain (noPicture : reply.isPicture = false) (prepared : files.Prepared left) :
      Answering r allowed a files reply left
  | copied (picture : reply.isPicture = true) (named : copyName? allowed a = some name)
      (prepared : files.Prepared ready)
      (leads : ready.resolve (r.copyPath name) = .ok (.name place false))
      (free : ready.entry? place ≠ some .directory) :
      Answering r allowed a files reply (ready.put place (.file reply.body))

variable {r : Relay} {allowed : List Http.Origin} {a : Arrival} {files after : FileTree}
  {reply : Http.Reply} {name : String} {bytes : ByteArray}

/-- A reply with what came of an upload, and the files that are left by it. -/
theorem Relaying.answering {s : RelayState} {part : Http.ReceivedPart}
    {outcome : Http.Reply × RelayState} (ended : Relaying r a.now s part outcome)
    (named : copyName? allowed a = some (savedName a.now (uploadName part)))
    (same : SameContent outcome.1 reply) : Answering r allowed a s.files reply outcome.2.files := by
  cases ended with
  | unanswered failed =>
    exact .plain (same.picture.trans (failureReply_not_picture _)) (.refl _)
  | unsaved answered refused =>
    exact .plain (same.picture.trans (Http.Reply.isPicture_text _ _)) (prepared_of_unsaved refused)
  | saved answered saved =>
    rename_i output left
    have picture : reply.isPicture = true := same.picture.trans (by simp [Http.Reply.isPicture])
    have body : output.bytes = reply.body := same.body.symm
    have saving := saveCopy_saving r s.files (savedName a.now (uploadName part)) output.bytes
    rw [saved] at saving
    cases saving with
    | done prepared leads free =>
      dsimp only
      rw [body]
      exact .copied picture named prepared leads free

theorem answer_answering (r : Relay) (allowed : List Http.Origin) (a : Arrival) (s : RelayState) :
    Answering r allowed a s.files (r.answer allowed a.now s a.request).1
      (r.answer allowed a.now s a.request).2.files := by
  cases posted : posted? allowed a.request with
  | none =>
    obtain ⟨noPicture, kept⟩ := answer_of_unposted r a.now s posted
    rw [kept]
    exact .plain noPicture (.refl _)
  | some form =>
    obtain ⟨same, state⟩ := answer_of_posted r a.now s posted
    rw [state]
    cases image : imagePart? form with
    | none =>
      obtain ⟨noPicture, kept⟩ := erase_without_image r a.now s image
      rw [kept]
      exact .plain (same.picture.trans noPicture) (.refl _)
    | some part =>
      have named : copyName? allowed a = some (savedName a.now (uploadName part)) := by
        simp [copyName?, upload?, posted, image]
      rw [erase_of_image image] at same ⊢
      exact (relayPart_relaying r a.now s part).answering named same

theorem copyName?_isName (named : copyName? allowed a = some name) :
    FileTree.IsName (Text.Utf8.encode name) := by
  obtain ⟨part, -, rfl⟩ := Option.map_eq_some_iff.mp named
  exact savedName_isName a.now (uploadName part)

/-- A copy stays as it is while a request is answered whose copy has another name. -/
theorem Answering.other_copy {owner : Arrival} (ended : Answering r allowed a files reply after)
    (named : copyName? allowed owner = some name)
    (was : files.read (r.copyPath name) = .ok bytes)
    (other : reply.isPicture = true → copyName? allowed a ≠ some name) :
    after.read (r.copyPath name) = .ok bytes := by
  cases ended with
  | plain noPicture prepared =>
    exact prepared.directories.read was fun place _ => prepared.contents place
  | copied picture renamed prepared leads free =>
    rename_i name' ready place
    have below := (FileTree.resolve_eq_ok.mp leads).2.below
    have ready := prepared.directories.read was fun place _ => prepared.contents place
    refine (FileTree.keepsDirectories_put below free _).read ready ?_
    intro place' leads'
    -- a path depends on the directories only, so both names lead somewhere in one tree
    have apart : place' ≠ place := by
      intro same
      subst same
      have names := FileTree.name_eq_of_place_eq (copyName?_isName renamed) (copyName?_isName named)
        leads leads'
      exact other picture (Text.Utf8.encode_injective names ▸ renamed)
    rw [FileTree.content?_put_file below, if_neg apart]

/-- The copy of a picture is there when it is sent. -/
theorem Answering.own_copy (ended : Answering r allowed a files reply after)
    (picture : reply.isPicture = true) :
    ∃ name, copyName? allowed a = some name ∧ after.read (r.copyPath name) = .ok reply.body := by
  cases ended with
  | plain noPicture prepared =>
    rw [noPicture] at picture
    cases picture
  | copied picture named prepared leads free =>
    exact ⟨_, named, FileTree.read_put leads free⟩

/-! ## A run of requests -/

/-- Every picture that was sent has a copy, or else a later one with a copy of the same name has. -/
structure Copied (r : Relay) (allowed : List Http.Origin) (log : List Served) (files : FileTree) :
    Prop where
  named : ∀ x ∈ log, x.reply.isPicture = true → ∃ name, copyName? allowed x.toArrival = some name
  latest : ∀ before x after name, log = before ++ x :: after → x.reply.isPicture = true →
    copyName? allowed x.toArrival = some name →
    (∀ y ∈ after, y.reply.isPicture = true → copyName? allowed y.toArrival ≠ some name) →
    files.read (r.copyPath name) = .ok x.reply.body

theorem copied_nil (r : Relay) (allowed : List Http.Origin) (files : FileTree) :
    Copied r allowed [] files where
  named := by simp
  latest := by simp

theorem Copied.answer {log : List Served} (copied : Copied r allowed log files)
    (ended : Answering r allowed a files reply after) :
    Copied r allowed (log ++ [⟨a, reply⟩]) after where
  named := by
    intro x member picture
    rcases List.mem_append.mp member with earlier | now
    · exact copied.named x earlier picture
    · cases List.mem_singleton.mp now
      obtain ⟨name, named, -⟩ := ended.own_copy picture
      exact ⟨name, named⟩
  latest := by
    intro before x later name split picture named others
    -- the copy asked for is that of the new reply, or of one before it
    rcases later.eq_nil_or_concat with rfl | ⟨front, last, rfl⟩
    · obtain ⟨-, same⟩ := List.append_inj' split rfl
      cases List.head_eq_of_cons_eq same
      obtain ⟨name', named', copy⟩ := ended.own_copy picture
      cases named.symm.trans named'
      exact copy
    · have ends : log ++ [⟨a, reply⟩] = (before ++ x :: front) ++ [last] := by
        rw [split]
        simp
      obtain ⟨earlier, same⟩ := List.append_inj' ends rfl
      cases List.head_eq_of_cons_eq same
      have was : files.read (r.copyPath name) = .ok x.reply.body := by
        apply copied.latest before x front name earlier picture named
        intro y member
        exact others y (by simp [member])
      exact ended.other_copy named was (others ⟨a, reply⟩ (by simp))

/-- A run goes on from any log whose copies are accounted for. -/
theorem copied_serve (arrivals : List Arrival) {s : RelayState} {log : List Served}
    (copied : Copied r allowed log s.files) :
    Copied r allowed (log ++ (r.serve allowed s arrivals).1) (r.serve allowed s arrivals).2.files := by
  induction arrivals generalizing s log with
  | nil => simpa [serve] using copied
  | cons a rest ih =>
    have next := ih (copied.answer (answer_answering r allowed a s))
    simpa [serve] using next

/-- A list with a member of some kind has a last one. -/
private theorem exists_last {P : Served → Prop} {l : List Served} (found : ∃ x ∈ l, P x) :
    ∃ front y back, l = front ++ y :: back ∧ P y ∧ ∀ z ∈ back, ¬ P z := by
  induction l with
  | nil => simp at found
  | cons x rest ih =>
    by_cases later : ∃ z ∈ rest, P z
    · obtain ⟨front, y, back, rfl, good, others⟩ := ih later
      exact ⟨x :: front, y, back, rfl, good, others⟩
    · obtain ⟨z, member, good⟩ := found
      rcases List.mem_cons.mp member with rfl | more
      · exact ⟨[], z, rest, rfl, good, fun w inRest other => later ⟨w, inRest, other⟩⟩
      · exact absurd ⟨z, more, good⟩ later

/-- After any run, the copy of a picture that was sent is the last picture that was sent for the same time
and safe name. It is the picture itself unless such a one came later. -/
theorem copy_is_last_picture_of_its_stamp (r : Relay) (allowed : List Http.Origin) (s : RelayState)
    (arrivals : List Arrival) {before after : List Served} {x : Served}
    (log : (r.serve allowed s arrivals).1 = before ++ x :: after)
    (picture : x.reply.isPicture = true) :
    ∃ part, upload? allowed x.request = some part ∧
      (∃ front y back, x :: after = front ++ y :: back ∧ y.reply.isPicture = true ∧
        SameStamp allowed x.toArrival y.toArrival ∧
        (∀ z ∈ back, z.reply.isPicture = true → ¬ SameStamp allowed x.toArrival z.toArrival) ∧
        (r.serve allowed s arrivals).2.files.read
          (r.copyPath (toString x.now ++ "_" ++ safeBase (uploadName part) ++ ".png")) =
            .ok y.reply.body) ∧
      ((∀ z ∈ after, z.reply.isPicture = true → ¬ SameStamp allowed x.toArrival z.toArrival) →
        (r.serve allowed s arrivals).2.files.read
          (r.copyPath (toString x.now ++ "_" ++ safeBase (uploadName part) ++ ".png")) =
            .ok x.reply.body) := by
  have copied := copied_serve arrivals (copied_nil r allowed s.files)
  rw [List.nil_append, log] at copied
  obtain ⟨name, named⟩ := copied.named x (by simp) picture
  obtain ⟨part, uploaded, rfl⟩ := Option.map_eq_some_iff.mp named
  refine ⟨part, uploaded, ?_, ?_⟩
  · have own : ∃ y ∈ x :: after, y.reply.isPicture = true ∧
        SameStamp allowed x.toArrival y.toArrival :=
      ⟨x, List.mem_cons_self, picture, (sameStamp_iff named).mpr named⟩
    obtain ⟨front, y, back, split, ⟨sent, same⟩, others⟩ := exists_last own
    refine ⟨front, y, back, split, sent, same, fun z member shown alike => ?_, ?_⟩
    · exact others z member ⟨shown, alike⟩
    · apply copied.latest (before ++ front) y back _ (by rw [split, List.append_assoc]) sent
        ((sameStamp_iff named).mp same)
      intro z member shown alike
      exact others z member ⟨shown, (sameStamp_iff named).mpr alike⟩
  · intro others
    apply copied.latest before x after _ rfl picture named
    intro z member shown alike
    exact others z member shown ((sameStamp_iff named).mpr alike)

/-- Two uploads in one millisecond, with names that differ in a character that is not kept. -/
def pair : List Arrival := [⟨5, posting "a b.png" "x"⟩, ⟨5, posting "a-b.png" "y"⟩]

/-- The form of the first upload. -/
def spaceForm : Http.ReceivedForm := ⟨[⟨some "image_file", some "a b.png", none, ⟨#[120]⟩⟩], none⟩

/-- The form of the second upload. -/
def dashForm : Http.ReceivedForm := ⟨[⟨some "image_file", some "a-b.png", none, ⟨#[121]⟩⟩], none⟩

private theorem space_posted : posted? [] (posting "a b.png" "x") = some spaceForm := by
  decide +kernel

private theorem dash_posted : posted? [] (posting "a-b.png" "y") = some dashForm := by
  decide +kernel

/-- Both uploads are answered with what they hold. -/
private theorem pair_served : ∃ first second,
    (echo.serve [] ⟨.empty, []⟩ pair).1 =
      [⟨⟨5, posting "a b.png" "x"⟩, first⟩, ⟨⟨5, posting "a-b.png" "y"⟩, second⟩] ∧
    (first.isPicture = true ∧ first.body = ⟨#[120]⟩) ∧
    (second.isPicture = true ∧ second.body = ⟨#[121]⟩) ∧
    (echo.serve [] ⟨.empty, []⟩ pair).2.files =
      (echo.erase 5 (echo.erase 5 ⟨.empty, []⟩ spaceForm).2 dashForm).2.files := by
  obtain ⟨same, state⟩ := answer_of_posted echo 5 ⟨.empty, []⟩ space_posted
  obtain ⟨same', state'⟩ := answer_of_posted echo 5 (echo.erase 5 ⟨.empty, []⟩ spaceForm).2 dash_posted
  have run := serve_pair echo [] ⟨.empty, []⟩ ⟨5, posting "a b.png" "x"⟩ ⟨5, posting "a-b.png" "y"⟩
  dsimp only at run
  rw [state, state'] at run
  exact ⟨_, _, congrArg Prod.fst run,
    ⟨same.picture.trans (by decide +kernel), same.body.trans (by decide +kernel)⟩,
    ⟨same'.picture.trans (by decide +kernel), same'.body.trans (by decide +kernel)⟩,
    congrArg (fun ran => ran.2.files) run⟩

theorem pair_leaves_copy_of_second :
    (echo.serve [] ⟨.empty, []⟩ pair).2.files.read (.ofText "/copies/5_a_b.png") =
      .ok ⟨#[121]⟩ := by
  obtain ⟨first, second, log, -, ⟨picture, body⟩, -⟩ := pair_served
  have split : (echo.serve [] ⟨.empty, []⟩ pair).1 =
      [⟨⟨5, posting "a b.png" "x"⟩, first⟩] ++ ⟨⟨5, posting "a-b.png" "y"⟩, second⟩ :: [] := log
  obtain ⟨part, uploaded, -, own⟩ :=
    copy_is_last_picture_of_its_stamp echo [] ⟨.empty, []⟩ pair split picture
  have image : upload? [] (posting "a-b.png" "y") =
      some ⟨some "image_file", some "a-b.png", none, ⟨#[121]⟩⟩ := by
    rw [upload?, dash_posted]
    rfl
  cases image.symm.trans uploaded
  have copy := own (by simp)
  have path : echo.copyPath (toString 5 ++ "_" ++ safeBase (uploadName
      ⟨some "image_file", some "a-b.png", none, ⟨#[121]⟩⟩) ++ ".png") =
      .ofText "/copies/5_a_b.png" := by decide +kernel
  rw [path, body] at copy
  exact copy

/-- Two requests of one millisecond can leave a single copy, that of the second. -/
theorem copy_is_lost_to_next_of_its_stamp :
    ¬ ∀ (r : Relay) (allowed : List Http.Origin) (s : RelayState) (arrivals : List Arrival),
      arrivals.Pairwise (fun a b => a.now ≤ b.now) →
      (∀ x ∈ (r.serve allowed s arrivals).1, x.reply.isPicture = true) →
      ∀ x ∈ (r.serve allowed s arrivals).1,
        ∃ place, (r.serve allowed s arrivals).2.files.content? place = some x.reply.body := by
  intro kept
  obtain ⟨first, second, log, ⟨picture, body⟩, ⟨picture', -⟩, files⟩ := pair_served
  have all : ∀ x ∈ (echo.serve [] ⟨.empty, []⟩ pair).1, x.reply.isPicture = true := by
    rw [log]
    simp [picture, picture']
  obtain ⟨place, held⟩ := kept echo [] ⟨.empty, []⟩ pair (by simp [pair]) all
    ⟨⟨5, posting "a b.png" "x"⟩, first⟩ (by simp [log])
  dsimp only at held
  rw [files, body] at held
  have member := FileTree.file_mem_of_content? held
  revert member
  decide +kernel

end Silhouette.Relay
