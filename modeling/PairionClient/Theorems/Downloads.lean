import PairionClient.Lemmas.ModelDownloader

namespace PairionClient

open Transition

namespace ModelDownloader

/-! ## Replies and the entries they are written for -/

/-- Whatever the replies in flight bring from here on, and in whatever order: the bytes of each are written for its own
entry, as all bytes have been so far. -/
def EndsMatched (M : ModelStore) (d : ModelDownloader) : Prop :=
  ∀ fs : List Event, (∀ f ∈ fs, f.isReply = true) → ∀ w ∈ (run (next M) d fs).stored, w.1.entry = w.2

/-- What the steps of a run emit. -/
def signals (M : ModelStore) : ModelDownloader → List Event → List DownloaderSignal
  | _, [] => []
  | d, e :: es => (step M d e).2 ++ signals M (next M d e) es

/-- Replies and pending models that are in step end in step. -/
theorem endsMatched_of_matched (M : ModelStore) {d : ModelDownloader} (h : Matched d) : EndsMatched M d := by
  intro fs hfs
  have hstep (d : ModelDownloader) (e : Event) (hd : Matched d) (he : e.isReply = true) : Matched (next M d e) := by
    refine matched_step M hd ?_
    rintro rfl
    cases he
  have hrun : Matched (run (next M) d fs) := inv_run hstep h (EveryStep.of_forall fs (fun f hf _ => hfs f hf) d)
  exact hrun.stored

/-- A check with another entry to fetch than the one of a reply in flight: some end of the replies is a mismatch. -/
theorem not_endsMatched_of_check (M : ModelStore) (hfiles : ∀ entry ∈ M.manifest, ∃ data, M.sha256Hex data = entry.sha256)
    {d : ModelDownloader} (hids : IdsFresh d) (hcheck : ¬AlignedCheck M d) :
    ¬EndsMatched M (next M d .checkAndDownload) := by
  simp only [AlignedCheck, not_forall] at hcheck
  obtain ⟨r, hr, y, hy, hne⟩ := hcheck
  obtain ⟨ys, rest, hsplit⟩ := List.append_of_mem hy
  obtain ⟨z, zs, hz⟩ : ∃ z zs, missing M d = z :: zs := by rw [hsplit]; cases ys <;> exact ⟨_, _, rfl⟩
  have hfiles' : ∀ x ∈ ys, ∃ data, M.sha256Hex data = x.sha256 := by
    intro x hx
    have hmem : x ∈ missing M d := by rw [hsplit]; exact List.mem_append_left _ hx
    exact hfiles x (List.mem_of_mem_filter hmem)
  rw [next, step, checkAndDownload_eq]
  generalize hd' : ({ d with
    totalCount := M.manifest.length
    completedCount := M.manifest.length - (missing M d).length
    pending := missing M d } : ModelDownloader) = d'
  have hpending : d'.pending = z :: zs := by rw [← hd', ← hz]
  have hsplit' : d'.pending = ys ++ y :: rest := by rw [← hd', ← hsplit]
  have hinFlight : d'.inFlight = d.inFlight := by rw [← hd']
  have hids' : IdsFresh d' := by
    rw [← hd']
    exact ⟨hids.nodup, hids.lt⟩
  have hids'' := idsFresh_downloadNext hids'
  rw [← hinFlight] at hr
  rw [downloadNext_cons hpending] at hids'' ⊢
  obtain ⟨fs, hfs, w, hw, hmismatch⟩ := mismatch_reachable M hne ys hfiles' hids'' (List.mem_append_left _ hr)
    (List.mem_append_right _ List.mem_cons_self) (Nat.ne_of_lt (hids'.lt r hr)) hsplit'
  exact fun h => hmismatch (h fs hfs w hw)

/-- From an empty downloader on, with the files of the manifest to be had: in every state of a run the replies end
matched, however they end, exactly when no check of the run has another entry to fetch than the one of a reply in flight.
In such a run, if each reply succeeds with the bytes of its own entry and the disk can be written, no error is reported.
-/
theorem replies_matched_iff (M : ModelStore) (hfiles : ∀ entry ∈ M.manifest, ∃ data, M.sha256Hex data = entry.sha256)
    (disk : String → Option Bytes) (es : List Event) :
    (Always (next M) (EndsMatched M) { disk := disk } es ↔
        EveryStep (next M) (fun d e => e = .checkAndDownload → AlignedCheck M d) { disk := disk } es) ∧
      (EveryStep (next M) (fun d e => e = .checkAndDownload → AlignedCheck M d) { disk := disk } es →
        EveryStep (next M) (Faithful M) { disk := disk } es →
          ∀ reason, .downloadError reason ∉ signals M { disk := disk } es) := by
  have hstart : Matched { disk := disk } := ⟨⟨List.nodup_nil, nofun⟩, nofun, .inr nofun⟩
  constructor
  · refine always_iff_everyStep (fun _ => True) Matched (fun _ h => endsMatched_of_matched M h) ?_ ?_ (fun _ _ => trivial)
      hstart
    · exact fun d e _ hd hcheck => matched_step M hd hcheck
    · intro d e _ hd hcheck
      rw [Classical.not_imp] at hcheck
      obtain ⟨rfl, hcheck⟩ := hcheck
      exact not_endsMatched_of_check M hfiles hd.toIdsFresh hcheck
  · intro haligned hfaithful reason
    revert hstart haligned hfaithful
    generalize ({ disk := disk } : ModelDownloader) = d
    intro hd haligned hfaithful
    induction es generalizing d with
    | nil => simp [signals]
    | cons e es ih =>
      rw [signals, List.mem_append, not_or]
      exact ⟨no_error_step M hd hfaithful.1 reason, ih _ (matched_step M hd haligned.1) haligned.2 hfaithful.2⟩

/-- One check fetches both models. -/
def fetch : List Event :=
  [.checkAndDownload, .replyFinished 0 (.ok [0x61]) true, .replyFinished 1 (.ok [0x62]) true]

/-- One check with its replies, in their order. -/
theorem replies_matched_iff_one_check :
    Always (next twoModels) (EndsMatched twoModels) { disk := fun _ => none } fetch ∧
      .downloadError "SHA-256 mismatch for embedding_model.onnx" ∉ signals twoModels { disk := fun _ => none } fetch := by
  have hfiles : ∀ entry ∈ twoModels.manifest, ∃ data, twoModels.sha256Hex data = entry.sha256 := by
    intro entry hentry
    rcases List.mem_cons.1 hentry with rfl | hentry
    · exact ⟨[0x61], by decide⟩
    · rw [List.mem_singleton.1 hentry]
      exact ⟨[0x62], by decide⟩
  have haligned : EveryStep (next twoModels) (fun d e => e = .checkAndDownload → AlignedCheck twoModels d)
      { disk := fun _ => none } fetch := ⟨fun _ => nofun, nofun, nofun, trivial⟩
  obtain ⟨hiff, hnone⟩ := replies_matched_iff twoModels hfiles (fun _ => none) fetch
  refine ⟨hiff.2 haligned, hnone haligned ⟨trivial, ?_, ?_, trivial⟩ _⟩
  · exact faithful_ok twoModels (r := ⟨0, melspectrogram⟩) (by decide) (by decide)
  · exact faithful_ok twoModels (r := ⟨1, embeddingModel⟩) (by decide) (by decide)

/-- A second session opens while the first model is being fetched: both replies bring its bytes, and the second is written
for the other model. -/
theorem replies_matched_false :
    ¬∀ (M : ModelStore) (disk : String → Option Bytes) (es : List Event),
      EveryStep (next M) (Faithful M) { disk := disk } es →
        (∀ w ∈ (run (next M) { disk := disk } es).stored, w.1.entry = w.2) ∧
          ∀ reason, .downloadError reason ∉ signals M { disk := disk } es := by
  intro h
  obtain ⟨hstored, -⟩ := h twoModels (fun _ => none)
    [.checkAndDownload, .checkAndDownload, .replyFinished 0 (.ok [0x61]) true, .replyFinished 1 (.ok [0x61]) true]
    ⟨trivial, trivial, faithful_ok twoModels (r := ⟨0, melspectrogram⟩) (by decide) (by decide),
      faithful_ok twoModels (r := ⟨1, melspectrogram⟩) (by decide) (by decide), trivial⟩
  have hbad := hstored (⟨1, melspectrogram⟩, embeddingModel) (by decide)
  exact absurd hbad (by decide)

end ModelDownloader

end PairionClient
