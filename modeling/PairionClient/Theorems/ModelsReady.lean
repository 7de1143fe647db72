import PairionClient.Lemmas.ModelDownloader

/-!
# When the models are announced

A failed download takes its entry off the pending list, and another reply in flight may go on with the rest. What keeps the
announcement honest is where the replies in flight stand: all that comes before their own entries is verified.
-/

namespace PairionClient

open Transition

namespace ModelDownloader

variable (M : ModelStore)

/-! ## Verified, pending and lost entries -/

def Verified (d : ModelDownloader) (x : ModelEntry) : Prop := verifyFile M d.disk (modelPath M x.name) x.sha256 = true

/-- An entry is lost that is neither verified nor pending. -/
def Lost (d : ModelDownloader) : Prop := ∃ x ∈ M.manifest, ¬Verified M d x ∧ x ∉ d.pending

/-- The order of the manifest. -/
def Before (x y : ModelEntry) : Prop := M.manifest.idxOf x < M.manifest.idxOf y

/-- The step announces the models only when all of them are verified. -/
def AnnouncesVerified (d : ModelDownloader) (e : Event) : Prop :=
  .allModelsReady ∈ (step M d e).2 → ∀ x ∈ M.manifest, Verified M (step M d e).1 x

/-- A reply to the request for one entry brings the bytes of another, which heads the pending list, while an entry is
lost. -/
def Misdelivers (d : ModelDownloader) : Event → Prop
  | .replyFinished id (.ok data) true =>
    ∃ r entry rest, d.replyOf id = some r ∧ d.pending = entry :: rest ∧ r.entry ≠ entry ∧
      M.sha256Hex data = entry.sha256 ∧ Lost M d
  | _ => False

/-- Where the downloader stands: what is pending is not verified, and is in the order of the manifest; what comes before
the entry of a reply in flight is verified; and once an entry is lost, no reply in flight is for a pending one. -/
structure Standing (d : ModelDownloader) : Prop where
  subset : ∀ x ∈ d.pending, x ∈ M.manifest
  sorted : d.pending.Pairwise (Before M)
  unverified : ∀ x ∈ d.pending, ¬Verified M d x
  behind : ∀ r ∈ d.inFlight, ∀ x ∈ M.manifest, Before M x r.entry → Verified M d x
  lost : Lost M d → ∀ r ∈ d.inFlight, r.entry ∉ d.pending

/-- Different models have different files. -/
theorem modelPath_inj {a b : String} (h : modelPath M a = modelPath M b) : a = b :=
  (String.append_right_inj (modelCacheDir M ++ "/")).1 h

section

variable {M} (hnames : (M.manifest.map (·.name)).Nodup)
include hnames

/-- The manifest is in its own order. -/
theorem manifest_pairwise_before : M.manifest.Pairwise (Before M) := by
  have hnodup : M.manifest.Nodup := hnames.of_map
  rw [List.pairwise_iff_getElem]
  intro i j hi hj hij
  unfold Before
  rw [hnodup.idxOf_getElem i hi, hnodup.idxOf_getElem j hj]
  exact hij

/-- What happens to the file of one entry leaves the others verified or not. -/
theorem verified_iff_of_ne {d d' : ModelDownloader} {entry x : ModelEntry}
    (hdisk : ∀ path, path ≠ modelPath M entry.name → d'.disk path = d.disk path) (hentry : entry ∈ M.manifest)
    (hx : x ∈ M.manifest) (hne : x ≠ entry) : Verified M d' x ↔ Verified M d x := by
  have hpath : modelPath M x.name ≠ modelPath M entry.name := by
    intro h
    exact hne (List.inj_on_of_nodup_map hnames hx hentry (modelPath_inj M h))
  unfold Verified verifyFile
  rw [hdisk _ hpath]

end

/-! ## A step of the downloader -/

/-- While no entry is lost, the next request is for an entry all before which is verified. -/
theorem standing_downloadNext {d : ModelDownloader} (h : Standing M d) (hlost : ¬Lost M d) :
    Standing M (downloadNext d).1 := by
  cases hp : d.pending with
  | nil => rwa [downloadNext_nil hp]
  | cons entry rest =>
    rw [downloadNext_cons hp]
    refine ⟨h.subset, h.sorted, h.unverified, ?_, fun hl => absurd hl hlost⟩
    intro r hr x hx hbefore
    rcases List.mem_append.1 hr with hr | hr
    · exact h.behind r hr x hx hbefore
    · rw [List.mem_singleton.1 hr] at hbefore
      have hsorted := h.sorted
      rw [hp, List.pairwise_cons] at hsorted
      have hnot : x ∉ d.pending := by
        rw [hp]
        intro hmem
        have hlt : M.manifest.idxOf x < M.manifest.idxOf entry := hbefore
        rcases List.mem_cons.1 hmem with rfl | hmem
        · omega
        · have hgt : M.manifest.idxOf entry < M.manifest.idxOf x := hsorted.1 x hmem
          omega
      by_contra hv
      exact hlost ⟨x, hx, hv, hnot⟩

/-- Nothing lost and nothing pending: all is verified. -/
theorem verified_of_downloadNext {d : ModelDownloader} (hlost : ¬Lost M d) (hready : .allModelsReady ∈ (downloadNext d).2) :
    ∀ x ∈ M.manifest, Verified M (downloadNext d).1 x := by
  cases hp : d.pending with
  | nil =>
    intro x hx
    rw [downloadNext_nil hp]
    by_contra hv
    exact hlost ⟨x, hx, hv, by simp [hp]⟩
  | cons entry rest => simp [downloadNext_cons hp] at hready

/-- The downloader after the manifest has been checked. -/
def checked (d : ModelDownloader) : ModelDownloader :=
  { d with
    totalCount := M.manifest.length
    completedCount := M.manifest.length - (missing M d).length
    pending := missing M d }

/-- After a check no model is lost. -/
theorem not_lost_checked (d : ModelDownloader) : ¬Lost M (checked M d) := by
  rintro ⟨x, hx, hv, hnot⟩
  refine hnot (List.mem_filter.2 ⟨hx, ?_⟩)
  have hv' : ¬verifyFile M d.disk (modelPath M x.name) x.sha256 = true := hv
  simpa using hv'

/-- A check puts down what is not verified, in the order of the manifest. -/
theorem standing_checked (hnames : (M.manifest.map (·.name)).Nodup) {d : ModelDownloader} (h : Standing M d) :
    Standing M (checked M d) := by
  refine ⟨fun x hx => List.mem_of_mem_filter hx, (manifest_pairwise_before hnames).filter _, ?_, h.behind, ?_⟩
  · intro x hx
    have hv := (List.mem_filter.1 hx).2
    simpa [Verified, checked] using hv
  · exact fun hl => absurd hl (not_lost_checked M d)

/-- When the head of the pending list goes, no reply in flight is for what stays pending: the head comes before it, and
was not verified. -/
theorem standing_pops (hnames : (M.manifest.map (·.name)).Nodup) {d d' : ModelDownloader} {entry : ModelEntry}
    {rest : List ModelEntry} (h : Standing M d) (hp : d.pending = entry :: rest) (hpops : Pops M d d' entry rest) :
    Standing M d' := by
  obtain ⟨hpending, hinFlight, -, hdisk⟩ := hpops
  have hmem : entry ∈ d.pending := by rw [hp]; exact List.mem_cons_self
  have hrest : ∀ x ∈ rest, x ∈ d.pending := fun x hx => by rw [hp]; exact List.mem_cons_of_mem entry hx
  have hentry : entry ∈ M.manifest := h.subset entry hmem
  have hsorted := h.sorted
  rw [hp, List.pairwise_cons] at hsorted
  obtain ⟨hhead, htail⟩ := hsorted
  refine ⟨?_, ?_, ?_, ?_, ?_⟩
  · intro x hx
    rw [hpending] at hx
    exact h.subset x (hrest x hx)
  · rw [hpending]
    exact htail
  · intro x hx
    rw [hpending] at hx
    have hne : x ≠ entry := by
      rintro rfl
      exact absurd (hhead x hx) (Nat.lt_irrefl _)
    rw [verified_iff_of_ne hnames hdisk hentry (h.subset x (hrest x hx)) hne]
    exact h.unverified x (hrest x hx)
  · intro r hr x hx hbefore
    rw [hinFlight] at hr
    have hv := h.behind r hr x hx hbefore
    have hne : x ≠ entry := by
      rintro rfl
      exact h.unverified x hmem hv
    exact (verified_iff_of_ne hnames hdisk hentry hx hne).2 hv
  · intro _ r hr hpend
    rw [hinFlight] at hr
    rw [hpending] at hpend
    exact h.unverified entry hmem (h.behind r hr entry hentry (hhead r.entry hpend))

/-- A reply that is taken off leaves what is pending. -/
theorem standing_forget {d : ModelDownloader} (h : Standing M d) (id : Nat) : Standing M (d.forget id) :=
  ⟨h.subset, h.sorted, h.unverified, fun r hr => h.behind r (List.mem_of_mem_filter hr),
    fun hl r hr => h.lost hl r (List.mem_of_mem_filter hr)⟩

/-- A reply that brings the bytes of the head of the pending list finds nothing lost, and leaves nothing lost. -/
theorem not_lost_accept (hnames : (M.manifest.map (·.name)).Nodup) {d : ModelDownloader} (h : Standing M d) {id : Nat}
    {r : Reply} {data : Bytes} {entry : ModelEntry} {rest : List ModelEntry} (hr : d.replyOf id = some r)
    (hp : d.pending = entry :: rest) (hhash : M.sha256Hex data = entry.sha256)
    (he : ¬Misdelivers M d (.replyFinished id (.ok data) true)) : ¬Lost M ((d.forget id).accept M r entry rest data) := by
  have hmem : entry ∈ d.pending := by rw [hp]; exact List.mem_cons_self
  have hbefore : ¬Lost M d := by
    intro hl
    have hsame : r.entry = entry := not_not.1 fun hne => he ⟨r, entry, rest, hr, hp, hne, hhash, hl⟩
    exact h.lost hl r (replyOf_eq_some hr).1 (hsame ▸ hmem)
  rintro ⟨x, hx, hv, hnot⟩
  have hne : x ≠ entry := by
    rintro rfl
    exact hv (verifyFile_of_hash M (if_pos rfl) hhash)
  have hdisk (path : String) (hpath : path ≠ modelPath M entry.name) :
      ((d.forget id).accept M r entry rest data).disk path = d.disk path := if_neg hpath
  rw [verified_iff_of_ne hnames hdisk (h.subset entry hmem) hx hne] at hv
  refine hbefore ⟨x, hx, hv, ?_⟩
  rw [hp, List.mem_cons, not_or]
  exact ⟨hne, hnot⟩

/-- A step that does not misdeliver keeps the standing, and announces only what is verified. -/
theorem standing_step (hnames : (M.manifest.map (·.name)).Nodup) {d : ModelDownloader} {e : Event} (h : Standing M d)
    (he : ¬Misdelivers M d e) : Standing M (next M d e) ∧ AnnouncesVerified M d e := by
  unfold next AnnouncesVerified
  cases e with
  | checkAndDownload =>
    rw [step, checkAndDownload_eq]
    have hlost := not_lost_checked M d
    exact ⟨standing_downloadNext M (standing_checked M hnames h) hlost, verified_of_downloadNext M hlost⟩
  | replyProgress id received total =>
    rw [step]
    split
    · exact ⟨h, fun hready => absurd hready List.not_mem_nil⟩
    · refine ⟨h, ?_⟩
      intro hready
      unfold onReplyProgress at hready
      split at hready <;> simp at hready
  | replyFinished id result writable =>
    rw [step]
    split
    · exact ⟨h, fun hready => absurd hready List.not_mem_nil⟩
    · rename_i r hr
      cases hp : d.pending with
      | nil =>
        have hp' : (d.forget id).pending = [] := hp
        rw [onDownloadFinished_nil M r result writable hp']
        exact ⟨standing_forget M h id, fun hready => absurd hready List.not_mem_nil⟩
      | cons entry rest =>
        have hp' : (d.forget id).pending = entry :: rest := hp
        rcases onDownloadFinished_cases M r result writable hp' with ⟨d', reason, heq, hpops⟩ | ⟨data, rfl, rfl, hhash⟩
        · rw [heq]
          refine ⟨standing_pops M hnames (standing_forget M h id) hp' hpops, ?_⟩
          intro hready
          simp at hready
        · rw [onDownloadFinished_ok M r hp' hhash]
          have hlost := not_lost_accept M hnames h hr hp hhash he
          have hpops : Pops M (d.forget id) ((d.forget id).accept M r entry rest data) entry rest :=
            ⟨rfl, rfl, rfl, fun _ hpath => if_neg hpath⟩
          refine ⟨standing_downloadNext M (standing_pops M hnames (standing_forget M h id) hp' hpops) hlost, ?_⟩
          intro hready
          simp only [List.mem_cons, reduceCtorEq, false_or] at hready
          exact verified_of_downloadNext M hlost hready

/-- From a downloader with nothing under way on, whatever the disk holds: in a run in which no reply brings the bytes of
another entry while an entry is lost, the models are announced only when all of them are verified. -/
theorem ready_of_no_misdelivery (hnames : (M.manifest.map (·.name)).Nodup) (disk : String → Option Bytes) (es : List Event)
    (hes : EveryStep (next M) (fun d e => ¬Misdelivers M d e) { disk := disk } es) :
    EveryStep (next M) (AnnouncesVerified M) { disk := disk } es := by
  have hstart : Standing M { disk := disk } := ⟨nofun, List.Pairwise.nil, nofun, nofun, nofun⟩
  exact hes.of_inv (Standing M) (fun d e h he => standing_step M hnames h he) hstart

/-- A reply for the head of the pending list does not misdeliver. -/
theorem not_misdelivers_of_head {d : ModelDownloader} {id : Nat} {r : Reply} (hr : d.replyOf id = some r)
    (hp : d.pending.head? = some r.entry) (data : Bytes) : ¬Misdelivers M d (.replyFinished id (.ok data) true) := by
  rintro ⟨r', entry, rest, hr', hp', hne, -, -⟩
  obtain rfl : r = r' := Option.some.inj (hr.symm.trans hr')
  rw [hp'] at hp
  exact hne (Option.some.inj hp).symm

/-- One check fetches both models, and they are announced with the second. -/
theorem ready_of_no_misdelivery_one_check :
    EveryStep (next twoModels) (AnnouncesVerified twoModels) { disk := fun _ => none }
      [.checkAndDownload, .replyFinished 0 (.ok [0x61]) true, .replyFinished 1 (.ok [0x62]) true] := by
  refine ready_of_no_misdelivery twoModels (by decide) (fun _ => none) _ ⟨nofun, ?_, ?_, trivial⟩
  · exact not_misdelivers_of_head twoModels (r := ⟨0, melspectrogram⟩) (by decide) (by decide) _
  · exact not_misdelivers_of_head twoModels (r := ⟨1, embeddingModel⟩) (by decide) (by decide) _

/-- Two sessions open, so two replies are in flight for the first model. The first fails, and takes the entry with it; the
second brings the bytes of the other model, and the models are announced without the first. -/
theorem ready_of_no_misdelivery_false :
    ¬∀ (M : ModelStore) (content : ModelEntry → Bytes) (disk : String → Option Bytes) (es : List Event),
      M.manifest ≠ [] → (M.manifest.map (·.name)).Nodup → (M.manifest.map (·.sha256)).Nodup →
        (∀ entry ∈ M.manifest, entry.sha256 ≠ "") →
        (∀ entry ∈ M.manifest, ∀ data, M.sha256Hex data = entry.sha256 → data = content entry) →
          EveryStep (next M) (AnnouncesVerified M) { disk := disk } es := by
  intro h
  let content (entry : ModelEntry) : Bytes := if entry = melspectrogram then [0x61] else [0x62]
  have hcontent : ∀ entry ∈ twoModels.manifest, ∀ data, twoModels.sha256Hex data = entry.sha256 → data = content entry := by
    intro entry hentry data hhash
    simp only [twoModels] at hhash
    rcases List.mem_cons.1 hentry with rfl | hentry
    · split at hhash
      · assumption
      · split at hhash <;> exact absurd hhash (by decide)
    · obtain rfl := List.mem_singleton.1 hentry
      split at hhash
      · exact absurd hhash (by decide)
      · split at hhash
        · assumption
        · exact absurd hhash (by decide)
  obtain ⟨-, -, -, hready, -⟩ := h twoModels content (fun _ => none)
    [.checkAndDownload, .checkAndDownload, .replyFinished 0 (.error "Connection timed out") true,
      .replyFinished 1 (.ok [0x62]) true] (by decide) (by decide) (by decide) (by decide) hcontent
  have hverified := hready (by decide) melspectrogram (by decide)
  exact absurd hverified (by unfold Verified; decide)

end ModelDownloader

end PairionClient
