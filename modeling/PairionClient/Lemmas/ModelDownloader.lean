import Mathlib.Data.List.Nodup
import PairionClient.Core.ModelDownloader
import PairionClient.Lib.Run

/-!
# Which reply is written for which entry

The invariant of a downloader whose replies are matched: one chain of replies, the head of the pending list being the
entry of the one in flight, or several chains that all ask for the same entry. Then what a reply does when the pending
list has another entry at its head.
-/

namespace PairionClient

namespace ModelDownloader

variable (M : ModelStore)

/-- Every entry that is pending is the entry of every reply in flight. -/
def SameEntry (d : ModelDownloader) : Prop := ∀ r ∈ d.inFlight, ∀ y ∈ d.pending, y = r.entry

/-- The ids of the replies in flight are different, and older than the next one. -/
structure IdsFresh (d : ModelDownloader) : Prop where
  nodup : (d.inFlight.map (·.id)).Nodup
  lt : ∀ r ∈ d.inFlight, r.id < d.nextReply

/-- What has been written was written for its own entry, and so will be what the replies in flight bring. -/
structure Matched (d : ModelDownloader) : Prop extends IdsFresh d where
  stored : ∀ w ∈ d.stored, w.1.entry = w.2
  chains : (∃ r rest, d.inFlight = [r] ∧ d.pending = r.entry :: rest) ∨ SameEntry d

/-! ## The next reply -/

theorem downloadNext_nil {d : ModelDownloader} (h : d.pending = []) : downloadNext d = (d, [.allModelsReady]) := by
  rw [downloadNext, h]

theorem downloadNext_cons {d : ModelDownloader} {entry : ModelEntry} {rest : List ModelEntry}
    (h : d.pending = entry :: rest) :
    downloadNext d =
      ({ d with inFlight := d.inFlight ++ [⟨d.nextReply, entry⟩], nextReply := d.nextReply + 1 }, []) := by
  rw [downloadNext, h]

/-- A new request has an id that was not given before. -/
theorem idsFresh_downloadNext {d : ModelDownloader} (h : IdsFresh d) : IdsFresh (downloadNext d).1 := by
  cases hp : d.pending with
  | nil => rwa [downloadNext_nil hp]
  | cons entry rest =>
    rw [downloadNext_cons hp]
    refine ⟨?_, fun r hr => ?_⟩
    · have hnew : d.nextReply ∉ d.inFlight.map (·.id) := by
        intro hmem
        obtain ⟨r, hr, hid⟩ := List.mem_map.1 hmem
        exact absurd hid (Nat.ne_of_lt (h.lt r hr))
      simpa [List.nodup_append, h.nodup] using fun r hr hid => hnew (List.mem_map.2 ⟨r, hr, hid⟩)
    · rcases List.mem_append.1 hr with hr | hr
      · exact Nat.lt_succ_of_lt (h.lt r hr)
      · rw [List.mem_singleton.1 hr]
        exact Nat.lt_succ_self _

/-- A downloader whose replies all ask for what is pending stays matched when it asks for the next entry: that starts a
chain, or is one more reply for the same entry. -/
theorem matched_downloadNext {d : ModelDownloader} (h : Matched d) (hsame : SameEntry d) : Matched (downloadNext d).1 := by
  have hids := idsFresh_downloadNext h.toIdsFresh
  cases hp : d.pending with
  | nil => rwa [downloadNext_nil hp]
  | cons entry rest =>
    rw [downloadNext_cons hp] at hids ⊢
    refine ⟨hids, h.stored, ?_⟩
    cases hf : d.inFlight with
    | nil => exact .inl ⟨⟨d.nextReply, entry⟩, rest, by simp, hp⟩
    | cons r rs =>
      have hr : r ∈ d.inFlight := by rw [hf]; exact List.mem_cons_self
      have hentry : entry = r.entry := hsame r hr entry (by rw [hp]; exact List.mem_cons_self)
      refine .inr ?_
      intro q hq y hy
      rcases List.mem_append.1 hq with hq | hq
      · exact hsame q (hf ▸ hq) y hy
      · rw [List.mem_singleton.1 hq, hentry]
        exact hsame r hr y hy

/-! ## A check -/

/-- A check that finds nothing to fetch, or no other entry to fetch than the one every reply in flight brings. -/
def AlignedCheck (d : ModelDownloader) : Prop := ∀ r ∈ d.inFlight, ∀ y ∈ missing M d, y = r.entry

/-- A check puts the missing models down as pending, and begins with the first. -/
theorem checkAndDownload_eq (d : ModelDownloader) :
    checkAndDownload M d =
      downloadNext { d with
        totalCount := M.manifest.length
        completedCount := M.manifest.length - (missing M d).length
        pending := missing M d } := by
  unfold checkAndDownload
  simp only
  split
  · rename_i h
    rw [downloadNext_nil h]
  · rfl

/-- A check that finds the pending list as the replies have it keeps replies and pending models in step. -/
theorem matched_checkAndDownload {d : ModelDownloader} (h : Matched d) (hcheck : AlignedCheck M d) :
    Matched (checkAndDownload M d).1 := by
  rw [checkAndDownload_eq]
  exact matched_downloadNext ⟨⟨h.nodup, h.lt⟩, h.stored, .inr hcheck⟩ hcheck

/-! ## The end of a reply -/

/-- `d` without the head of its pending list, and with what the reply wrote. -/
structure Popped (d d' : ModelDownloader) (r : Reply) (entry : ModelEntry) (rest : List ModelEntry) : Prop where
  pending : d'.pending = rest
  inFlight : d'.inFlight = d.inFlight
  nextReply : d'.nextReply = d.nextReply
  stored : d'.stored = d.stored ∨ d'.stored = d.stored ++ [(r, entry)]

/-- A reply that finishes pops the pending list, and a verified one asks for the next entry. -/
theorem onDownloadFinished_cons (r : Reply) (result : Except String Bytes) (writable : Bool) {d : ModelDownloader}
    {entry : ModelEntry} {rest : List ModelEntry} (hp : d.pending = entry :: rest) :
    ∃ d', Popped d d' r entry rest ∧
      ((onDownloadFinished M r result writable d).1 = d' ∨
        (onDownloadFinished M r result writable d).1 = (downloadNext d').1) := by
  simp only [onDownloadFinished, hp]
  cases result with
  | error what => exact ⟨{ d with pending := rest }, ⟨rfl, rfl, rfl, .inl rfl⟩, .inl rfl⟩
  | ok data =>
    dsimp only
    split
    · exact ⟨{ d with pending := rest }, ⟨rfl, rfl, rfl, .inl rfl⟩, .inl rfl⟩
    · split
      · exact ⟨{ { d with pending := rest }.write M r entry data with completedCount := d.completedCount + 1 },
          ⟨rfl, rfl, rfl, .inr rfl⟩, .inr rfl⟩
      · exact ⟨({ d with pending := rest }.write M r entry data).remove (modelPath M entry.name),
          ⟨rfl, rfl, rfl, .inr rfl⟩, .inl rfl⟩

theorem onDownloadFinished_nil (r : Reply) (result : Except String Bytes) (writable : Bool) {d : ModelDownloader}
    (hp : d.pending = []) : onDownloadFinished M r result writable d = (d, []) := by
  rw [onDownloadFinished, hp]

/-- The reply that is found is in flight and has the id. -/
theorem replyOf_eq_some {d : ModelDownloader} {id : Nat} {r : Reply} (h : d.replyOf id = some r) :
    r ∈ d.inFlight ∧ r.id = id :=
  ⟨List.mem_of_find?_eq_some h, by simpa using List.find?_some h⟩

/-- A reply that is over leaves the ids of the others fresh. -/
theorem idsFresh_forget {d : ModelDownloader} (h : IdsFresh d) (id : Nat) : IdsFresh (d.forget id) :=
  ⟨h.nodup.sublist ((List.filter_sublist).map _), fun r hr => h.lt r (List.mem_of_mem_filter hr)⟩

/-- In a matched downloader, what heads the pending list is the entry of each reply in flight. -/
theorem Matched.head_entry {d : ModelDownloader} (h : Matched d) {r : Reply} (hr : r ∈ d.inFlight) {entry : ModelEntry}
    {rest : List ModelEntry} (hp : d.pending = entry :: rest) : entry = r.entry := by
  rcases h.chains with ⟨r', rest', hf, hp'⟩ | hsame
  · have hr' : r = r' := by simpa [hf] using hr
    rw [hp] at hp'
    rw [hr']
    exact (List.cons.inj hp').1
  · exact hsame r hr entry (by simp [hp])

/-- In a matched downloader, a reply that finishes is written for its own entry, and leaves a matched one. -/
theorem matched_onDownloadFinished {d : ModelDownloader} (h : Matched d) {id : Nat} {r : Reply} (hr : d.replyOf id = some r)
    (result : Except String Bytes) (writable : Bool) :
    Matched (onDownloadFinished M r result writable (d.forget id)).1 := by
  obtain ⟨hmem, hid⟩ := replyOf_eq_some hr
  have hids := idsFresh_forget h.toIdsFresh id
  cases hp : d.pending with
  | nil =>
    have hp' : (d.forget id).pending = [] := hp
    rw [onDownloadFinished_nil M r result writable hp']
    exact ⟨hids, h.stored, .inr fun q hq y hy => by simp [forget, hp] at hy⟩
  | cons entry rest =>
    have hp' : (d.forget id).pending = entry :: rest := hp
    obtain ⟨d', hpop, hd'⟩ := onDownloadFinished_cons M r result writable hp'
    have hids' : IdsFresh d' := ⟨by rw [hpop.inFlight]; exact hids.nodup, by
      rw [hpop.inFlight, hpop.nextReply]; exact hids.lt⟩
    -- the head of the pending list is the reply's own entry, and what stays in flight asks for what stays pending
    have hentry : entry = r.entry := h.head_entry hmem hp
    have hsame' : SameEntry d' := by
      rcases h.chains with ⟨r', rest', hf, -⟩ | hsame
      · have hr' : r = r' := by simpa [hf] using hmem
        have hempty : d'.inFlight = [] := by simp [hpop.inFlight, forget, hf, ← hr', hid]
        exact fun q hq => by simp [hempty] at hq
      · refine fun q hq y hy => hsame q ?_ y ?_
        · rw [hpop.inFlight] at hq
          exact List.mem_of_mem_filter hq
        · rw [hpop.pending] at hy
          simp [hp, hy]
    have hmatched : Matched d' := by
      refine ⟨hids', fun w hw => ?_, .inr hsame'⟩
      rcases hpop.stored with hs | hs
      · exact h.stored w (by rwa [hs] at hw)
      · rw [hs] at hw
        rcases List.mem_append.1 hw with hw | hw
        · exact h.stored w hw
        · rw [List.mem_singleton.1 hw]
          exact hentry.symm
    rcases hd' with hd' | hd' <;> rw [hd']
    · exact hmatched
    · exact matched_downloadNext hmatched hsame'

/-! ## Files that arrive as they should -/

/-- An empty text is not the hash of a file. -/
theorem sha256_ne_empty {data : Bytes} {sha256 : String} (hhash : M.sha256Hex data = sha256) : sha256 ≠ "" := by
  rintro rfl
  have hlength := M.sha256Hex_length data
  rw [hhash] at hlength
  exact absurd hlength (by decide)

/-- A file whose bytes have the hash is verified. -/
theorem verifyFile_of_hash {disk : String → Option Bytes} {path sha256 : String} {data : Bytes}
    (hdisk : disk path = some data) (hhash : M.sha256Hex data = sha256) : verifyFile M disk path sha256 = true := by
  have hne : sha256 ≠ "" := sha256_ne_empty M hhash
  simp [verifyFile, hne, hdisk, hhash]

/-- The downloader after the bytes of `r` have been written for `entry` and verified. -/
def accept (r : Reply) (entry : ModelEntry) (rest : List ModelEntry) (data : Bytes) (d : ModelDownloader) : ModelDownloader :=
  { { d with pending := rest }.write M r entry data with completedCount := d.completedCount + 1 }

/-- A reply with the bytes of the entry at the head of the pending list is accepted. -/
theorem onDownloadFinished_ok (r : Reply) {data : Bytes} {d : ModelDownloader} {entry : ModelEntry} {rest : List ModelEntry}
    (hp : d.pending = entry :: rest) (hhash : M.sha256Hex data = entry.sha256) :
    onDownloadFinished M r (.ok data) true d =
      ((downloadNext (d.accept M r entry rest data)).1,
        .downloadProgress ((((d.completedCount + 1 : Nat) : Int) * 100).tdiv d.totalCount) ::
          (downloadNext (d.accept M r entry rest data)).2) := by
  have hdisk : ({ d with pending := rest }.write M r entry data).disk (modelPath M entry.name) = some data := if_pos rfl
  have hverify := verifyFile_of_hash M hdisk hhash
  simp only [onDownloadFinished, hp, hverify]
  rfl

/-- The head of the pending list has gone, and nothing but its file has changed. -/
structure Pops (d d' : ModelDownloader) (entry : ModelEntry) (rest : List ModelEntry) : Prop where
  pending : d'.pending = rest
  inFlight : d'.inFlight = d.inFlight
  nextReply : d'.nextReply = d.nextReply
  disk : ∀ path, path ≠ modelPath M entry.name → d'.disk path = d.disk path

/-- A reply that finishes is an error, or it brings the bytes of the head of the pending list. -/
theorem onDownloadFinished_cases (r : Reply) (result : Except String Bytes) (writable : Bool) {d : ModelDownloader}
    {entry : ModelEntry} {rest : List ModelEntry} (hp : d.pending = entry :: rest) :
    (∃ d' reason, onDownloadFinished M r result writable d = (d', [.downloadError reason]) ∧ Pops M d d' entry rest) ∨
      ∃ data, result = .ok data ∧ writable = true ∧ M.sha256Hex data = entry.sha256 := by
  simp only [onDownloadFinished, hp]
  cases result with
  | error what => exact Or.inl ⟨_, _, rfl, rfl, rfl, rfl, fun _ _ => rfl⟩
  | ok data =>
    dsimp only
    cases writable with
    | false => exact Or.inl ⟨_, _, rfl, rfl, rfl, rfl, fun _ _ => rfl⟩
    | true =>
      by_cases hhash : M.sha256Hex data = entry.sha256
      · exact Or.inr ⟨data, rfl, rfl, hhash⟩
      · left
        have hverify : verifyFile M ({ d with pending := rest }.write M r entry data).disk (modelPath M entry.name)
            entry.sha256 = false := by
          simp [verifyFile, write, hhash]
        simp only [hverify]
        refine ⟨_, _, rfl, rfl, rfl, rfl, ?_⟩
        intro path hpath
        simp [remove, write, hpath]

/-- Going on to the next model reports no error. -/
theorem downloadNext_no_error (d : ModelDownloader) (reason : String) : .downloadError reason ∉ (downloadNext d).2 := by
  cases hp : d.pending with
  | nil => simp [downloadNext_nil hp]
  | cons entry rest => simp [downloadNext_cons hp]

/-- A reply that succeeds with the bytes of its own entry, on a disk that can be written. -/
def Faithful (d : ModelDownloader) : Event → Prop
  | .replyFinished id result writable =>
    ∀ r, d.replyOf id = some r → writable = true ∧ ∃ data, result = .ok data ∧ M.sha256Hex data = r.entry.sha256
  | _ => True

/-- A reply that brings bytes with the hash of its own entry is faithful. -/
theorem faithful_ok {d : ModelDownloader} {id : Nat} {r : Reply} (hr : d.replyOf id = some r) {data : Bytes}
    (hhash : M.sha256Hex data = r.entry.sha256) : Faithful M d (.replyFinished id (.ok data) true) := by
  intro r' hr'
  rw [hr] at hr'
  cases hr'
  exact ⟨rfl, data, rfl, hhash⟩

/-! ## Steps -/

/-- A step keeps replies and pending models in step, if each check finds them so. -/
theorem matched_step {d : ModelDownloader} (h : Matched d) {e : Event}
    (hcheck : e = .checkAndDownload → AlignedCheck M d) : Matched (step M d e).1 := by
  cases e with
  | checkAndDownload => exact matched_checkAndDownload M h (hcheck rfl)
  | replyProgress id received total =>
    rw [step]
    split <;> exact h
  | replyFinished id result writable =>
    rw [step]
    split
    · exact h
    · exact matched_onDownloadFinished M h ‹_› result writable

/-- Of a matched downloader, a step whose reply is faithful reports no error. -/
theorem no_error_step {d : ModelDownloader} (h : Matched d) {e : Event} (hfaithful : Faithful M d e) (reason : String) :
    .downloadError reason ∉ (step M d e).2 := by
  cases e with
  | checkAndDownload =>
    rw [step, checkAndDownload_eq]
    exact downloadNext_no_error _ reason
  | replyProgress id received total =>
    rw [step]
    split
    · simp
    · unfold onReplyProgress
      split <;> simp
  | replyFinished id result writable =>
    rw [step]
    split
    · simp
    · rename_i r hr
      obtain ⟨rfl, data, rfl, hhash⟩ := hfaithful r hr
      have hp' : (d.forget id).pending = d.pending := rfl
      cases hp : d.pending with
      | nil =>
        rw [hp] at hp'
        rw [onDownloadFinished_nil M r (.ok data) true hp']
        simp
      | cons entry rest =>
        rw [hp] at hp'
        rw [← h.head_entry (replyOf_eq_some hr).1 hp] at hhash
        rw [onDownloadFinished_ok M r hp' hhash]
        simp [downloadNext_no_error]

/-! ## A reply behind another entry -/

/-- A reply in flight is found by its id. -/
theorem replyOf_of_mem {d : ModelDownloader} (h : IdsFresh d) {r : Reply} (hr : r ∈ d.inFlight) :
    d.replyOf r.id = some r := by
  cases hf : d.replyOf r.id with
  | none => simpa using List.find?_eq_none.1 hf r hr
  | some r' =>
    obtain ⟨hmem, hid⟩ := replyOf_eq_some hf
    rw [List.inj_on_of_nodup_map h.nodup hmem hr hid]

/-- An event of the replies, not a check. -/
def Event.isReply : Event → Bool
  | .checkAndDownload => false
  | _ => true

/-- The state after a step. -/
def next (d : ModelDownloader) (e : Event) : ModelDownloader := (step M d e).1

/-- A reply that ends is taken off, and then handled. -/
theorem next_replyFinished {d : ModelDownloader} (h : IdsFresh d) {r : Reply} (hr : r ∈ d.inFlight)
    (result : Except String Bytes) (writable : Bool) :
    next M d (.replyFinished r.id result writable) = (onDownloadFinished M r result writable (d.forget r.id)).1 := by
  simp only [next, step, replyOf_of_mem h hr]

/-- Going on to the next model writes no file. -/
theorem stored_downloadNext (d : ModelDownloader) : (downloadNext d).1.stored = d.stored := by
  cases hp : d.pending with
  | nil => rw [downloadNext_nil hp]
  | cons entry rest => rw [downloadNext_cons hp]

/-- What arrives is written for the entry at the head of the pending list. -/
theorem stored_onDownloadFinished (r : Reply) (data : Bytes) {d : ModelDownloader} {entry : ModelEntry}
    {rest : List ModelEntry} (hp : d.pending = entry :: rest) :
    (onDownloadFinished M r (.ok data) true d).1.stored = d.stored ++ [(r, entry)] := by
  simp only [onDownloadFinished, hp]
  split
  · contradiction
  · split
    · exact stored_downloadNext _
    · rfl

open Transition in
/-- A reply in flight whose entry is not the one that heads the pending list, when it ends, is written for that one. When
other entries come before, another reply in flight can bring those first. -/
theorem mismatch_reachable {y : ModelEntry} {rest : List ModelEntry} {r : Reply} (hy : y ≠ r.entry) (ys : List ModelEntry)
    (hfiles : ∀ x ∈ ys, ∃ data, M.sha256Hex data = x.sha256) {d : ModelDownloader} {c : Reply} (hids : IdsFresh d)
    (hr : r ∈ d.inFlight) (hc : c ∈ d.inFlight) (hne : r.id ≠ c.id) (hp : d.pending = ys ++ y :: rest) :
    ∃ fs : List Event, (∀ f ∈ fs, f.isReply = true) ∧ ∃ w ∈ (run (next M) d fs).stored, w.1.entry ≠ w.2 := by
  induction ys generalizing d c with
  | nil =>
    refine ⟨[.replyFinished r.id (.ok []) true], by simp [Event.isReply], (r, y), ?_, hy.symm⟩
    have hp' : (d.forget r.id).pending = y :: rest := hp
    rw [run_cons, run_nil, next_replyFinished M hids hr, stored_onDownloadFinished M r [] hp']
    exact List.mem_append_right _ List.mem_cons_self
  | cons x ys ih =>
    obtain ⟨data, hdata⟩ := hfiles x List.mem_cons_self
    have hp' : (d.forget c.id).pending = x :: (ys ++ y :: rest) := hp
    obtain ⟨z, zs, hz⟩ : ∃ z zs, ys ++ y :: rest = z :: zs := by cases ys <;> exact ⟨_, _, rfl⟩
    -- the other reply brings `x`, and the next one asks for what comes after it
    have hnext : next M d (.replyFinished c.id (.ok data) true) =
        (downloadNext ((d.forget c.id).accept M c x (ys ++ y :: rest) data)).1 := by
      rw [next_replyFinished M hids hc, onDownloadFinished_ok M c hp' hdata]
    have hids' : IdsFresh ((d.forget c.id).accept M c x (ys ++ y :: rest) data) :=
      ⟨(idsFresh_forget hids c.id).nodup, (idsFresh_forget hids c.id).lt⟩
    have hids'' := idsFresh_downloadNext hids'
    rw [downloadNext_cons (show (accept M c x _ data _).pending = z :: zs from hz)] at hnext hids''
    obtain ⟨fs, hfs, hw⟩ := ih (fun x' hx' => hfiles x' (List.mem_cons_of_mem x hx')) hids''
      (List.mem_append_left _ (List.mem_filter.2 ⟨hr, by simpa using hne⟩)) (List.mem_append_right _ List.mem_cons_self)
      (Nat.ne_of_lt (hids.lt r hr)) rfl
    refine ⟨.replyFinished c.id (.ok data) true :: fs, ?_, by rw [run_cons, hnext]; exact hw⟩
    simpa [Event.isReply] using hfs

end ModelDownloader

end PairionClient
