import PairionClient.Theorems.Downloads
import PairionClient.Theorems.ModelsReady

/-!
# One check at a time

A check that is made while nothing is in flight asks for the missing models one after the other. It ends by saying once that the
models are ready or that one failed, its percentages never fall on the way, and what is verified stays verified: a check that
is made again asks only for what is still missing.
-/

namespace PairionClient

open Transition

namespace ModelDownloader

variable (M : ModelStore)

/-! ## The one reply in flight -/

/-- One reply is in flight, and it is for the entry that heads the pending list. -/
structure Fetching (d : ModelDownloader) (r : Reply) (rest : List ModelEntry) : Prop where
  inFlight : d.inFlight = [r]
  pending : d.pending = r.entry :: rest
  count : d.completedCount + d.pending.length = d.totalCount

variable {M} {d : ModelDownloader} {r : Reply} {rest : List ModelEntry}

/-- After a check, what is done and what is pending are the whole manifest. -/
theorem count_checked (d : ModelDownloader) :
    (checked M d).completedCount + (checked M d).pending.length = (checked M d).totalCount := by
  have hle : (missing M d).length ≤ M.manifest.length := List.length_filter_le _ _
  simp only [checked]
  omega

/-- The next request, when nothing is in flight. -/
theorem fetching_downloadNext {entry : ModelEntry} (hquiet : d.inFlight = []) (hp : d.pending = entry :: rest)
    (hcount : d.completedCount + d.pending.length = d.totalCount) :
    (downloadNext d).2 = [] ∧ (downloadNext d).1.nextReply = d.nextReply + 1 ∧ (downloadNext d).1.disk = d.disk ∧
      (downloadNext d).1.completedCount = d.completedCount ∧ (downloadNext d).1.totalCount = d.totalCount ∧
      Fetching (downloadNext d).1 ⟨d.nextReply, entry⟩ rest := by
  rw [downloadNext_cons hp]
  refine ⟨rfl, rfl, rfl, rfl, rfl, ?_, hp, hcount⟩
  rw [hquiet]
  rfl

/-- While one model is fetched, only its own reply is found. -/
theorem Fetching.replyOf (h : Fetching d r rest) (id : Nat) : d.replyOf id = if r.id = id then some r else none := by
  rw [ModelDownloader.replyOf, h.inFlight, List.find?_cons]
  by_cases hid : r.id = id
  · simp [hid]
  · simp [hid]

/-- The reply under way is found by its id. -/
theorem Fetching.replyOf_self (h : Fetching d r rest) : d.replyOf r.id = some r := by
  rw [h.replyOf]
  exact if_pos rfl

/-- When it is taken off, nothing is in flight. -/
theorem Fetching.forget (h : Fetching d r rest) : (d.forget r.id).inFlight = [] := by
  rw [ModelDownloader.forget, h.inFlight]
  simp

/-- The end of the one reply: an error and nothing more in flight, or the file is there and the next is asked for. -/
theorem Fetching.finished (h : Fetching d r rest) (result : Except String Bytes) (writable : Bool) :
    (∃ d' reason, step M d (.replyFinished r.id result writable) = (d', [.downloadError reason]) ∧
        Pops M (d.forget r.id) d' r.entry rest) ∨
      ∃ data, result = .ok data ∧ writable = true ∧ M.sha256Hex data = r.entry.sha256 ∧
        step M d (.replyFinished r.id result writable) =
          ((downloadNext ((d.forget r.id).accept M r r.entry rest data)).1,
            .downloadProgress ((((d.completedCount + 1 : Nat) : Int) * 100).tdiv d.totalCount) ::
              (downloadNext ((d.forget r.id).accept M r r.entry rest data)).2) := by
  have hreply := h.replyOf_self
  have hpending : (d.forget r.id).pending = r.entry :: rest := h.pending
  simp only [step, hreply]
  rcases onDownloadFinished_cases M r result writable hpending with hfailed | ⟨data, rfl, rfl, hhash⟩
  · exact Or.inl hfailed
  · exact Or.inr ⟨data, rfl, rfl, hhash, onDownloadFinished_ok M r hpending hhash⟩

/-- A file that is accepted leaves nothing in flight, and is counted. -/
theorem Fetching.accept (h : Fetching d r rest) (data : Bytes) :
    ((d.forget r.id).accept M r r.entry rest data).inFlight = [] ∧
      ((d.forget r.id).accept M r r.entry rest data).completedCount + rest.length =
        ((d.forget r.id).accept M r r.entry rest data).totalCount := by
  refine ⟨h.forget, ?_⟩
  have hcount := h.count
  rw [h.pending, List.length_cons] at hcount
  show d.completedCount + 1 + rest.length = d.totalCount
  omega

/-- What comes of a reply that is not the one in flight. -/
theorem Fetching.stray (h : Fetching d r rest) {id : Nat} (hid : r.id ≠ id) (result : Except String Bytes) (writable : Bool) :
    step M d (.replyFinished id result writable) = (d, []) := by
  have hreply : d.replyOf id = none := by
    rw [h.replyOf]
    exact if_neg hid
  simp only [step, hreply]

/-- Progress only tells. -/
theorem next_replyProgress (M : ModelStore) (d : ModelDownloader) (id : Nat) (received total : Int) :
    next M d (.replyProgress id received total) = d := by
  rw [next, step]
  split <;> rfl

/-- While nothing is in flight, only a check does something. -/
theorem step_of_quiet (hquiet : d.inFlight = []) {e : Event} (he : e ≠ .checkAndDownload) : step M d e = (d, []) := by
  have hreply (id : Nat) : d.replyOf id = none := by
    rw [ModelDownloader.replyOf, hquiet]
    rfl
  cases e with
  | checkAndDownload => exact absurd rfl he
  | replyProgress id received total => simp only [step, hreply]
  | replyFinished id result writable => simp only [step, hreply]

/-! ## What a check tells -/

/-- The models of the requests made between two states: those of the replies with new numbers. -/
def requests (before after : ModelDownloader) : List ModelEntry :=
  (after.inFlight.filter fun r => before.nextReply ≤ r.id).map (·.entry)

/-- The downloader, what it has requested and told, and how far each reply has come. -/
structure Told where
  downloader : ModelDownloader
  requested : List ModelEntry := []
  told : List DownloaderSignal := []
  fraction : Nat → Int := fun _ => 0

variable (M) in
def Told.step (t : Told) (e : Event) : Told :=
  { downloader := (ModelDownloader.step M t.downloader e).1
    requested := t.requested ++ requests t.downloader (ModelDownloader.step M t.downloader e).1
    told := t.told ++ (ModelDownloader.step M t.downloader e).2
    fraction :=
      match e with
      | .replyProgress id received total =>
        if total > 0 ∧ (t.downloader.replyOf id).isSome then Function.update t.fraction id ((received * 100).tdiv total)
        else t.fraction
      | _ => t.fraction }

/-- What Qt promises of a reply that tells its progress: it does not go back, nor beyond its total. And no check is made.
-/
def Forward (t : Told) : Event → Prop
  | .checkAndDownload => False
  | .replyProgress id received total =>
    total > 0 → 0 ≤ received ∧ received ≤ total ∧ t.fraction id ≤ (received * 100).tdiv total
  | .replyFinished _ _ _ => True

/-- The percentage of a file that is being fetched. -/
def overall (d : ModelDownloader) (fileProgress : Int) : Int := (d.completedCount * 100 + fileProgress).tdiv d.totalCount

/-- A step that leaves nothing in flight has requested nothing. -/
theorem requests_of_quiet {d' : ModelDownloader} (hquiet : d'.inFlight = []) : requests d d' = [] := by
  rw [requests, hquiet]
  rfl

/-- A reply that was in flight before is not requested again. -/
theorem Fetching.requests_self (h : Fetching d r rest) (hold : r.id < d.nextReply) : requests d d = [] := by
  rw [requests, h.inFlight, List.filter_cons_of_neg (by simpa using hold)]
  rfl

/-- The reply that is in flight now, and was not before. -/
theorem Fetching.requests_new {d' : ModelDownloader} {entry : ModelEntry} {rest' : List ModelEntry}
    (h : Fetching d' ⟨d.nextReply, entry⟩ rest') : requests d d' = [entry] := by
  rw [requests, h.inFlight, List.filter_cons_of_pos (by simp)]
  rfl

/-- While one model is fetched, there is one to count. -/
theorem Fetching.total_pos (h : Fetching d r rest) : (0 : Int) < d.totalCount := by
  have hcount := h.count
  rw [h.pending, List.length_cons] at hcount
  omega

/-- The percentage reported grows with that of the file. -/
theorem overall_mono (h : Fetching d r rest) {p q : Int} (hp : 0 ≤ p) (hpq : p ≤ q) : overall d p ≤ overall d q := by
  rw [overall, overall, Int.tdiv_eq_ediv_of_nonneg (by omega), Int.tdiv_eq_ediv_of_nonneg (by omega)]
  exact Int.ediv_le_ediv h.total_pos (by omega)

/-- A percentage of the file from 0 to 100 is reported as one from 0 to 100. -/
theorem overall_bounds (h : Fetching d r rest) {p : Int} (hp : 0 ≤ p) (hp' : p ≤ 100) : 0 ≤ overall d p ∧ overall d p ≤ 100 := by
  have htotal := h.total_pos
  have hcount := h.count
  rw [h.pending, List.length_cons] at hcount
  rw [overall, Int.tdiv_eq_ediv_of_nonneg (by omega)]
  exact ⟨Int.ediv_nonneg (by omega) (by omega), Int.ediv_le_of_le_mul htotal (by omega)⟩

/-- What has come of a total is a percentage from 0 to 100. -/
theorem fraction_bounds {received total : Int} (htotal : total > 0) (hreceived : 0 ≤ received) (hle : received ≤ total) :
    0 ≤ (received * 100).tdiv total ∧ (received * 100).tdiv total ≤ 100 := by
  rw [Int.tdiv_eq_ediv_of_nonneg (by omega)]
  exact ⟨Int.ediv_nonneg (by omega) (by omega), Int.ediv_le_of_le_mul htotal (by omega)⟩

/-- A signal that ends a check. -/
def IsEnd : DownloaderSignal → Prop
  | .downloadProgress _ => False
  | .allModelsReady | .downloadError _ => True

/-- Percentages that do not fall, up to a bound. -/
structure Rising (percents : List Int) (bound : Int) : Prop where
  sorted : percents.Pairwise (· ≤ ·)
  range : ∀ p ∈ percents, 0 ≤ p ∧ p ≤ 100
  le : ∀ p ∈ percents, p ≤ bound

theorem Rising.mono {percents : List Int} {bound bound' : Int} (h : Rising percents bound) (hle : bound ≤ bound') :
    Rising percents bound' := ⟨h.sorted, h.range, fun p hp => Int.le_trans (h.le p hp) hle⟩

/-- Percentages below a bound rise with the bound as the next one. -/
theorem Rising.concat {percents : List Int} {bound : Int} (h : Rising percents bound) (hbound : 0 ≤ bound ∧ bound ≤ 100) :
    Rising (percents ++ [bound]) bound := by
  refine ⟨?_, ?_, ?_⟩
  · rw [List.pairwise_append]
    refine ⟨h.sorted, List.pairwise_singleton _ _, fun p hp q hq => ?_⟩
    rw [List.mem_singleton.1 hq]
    exact h.le p hp
  · intro p hp
    rcases List.mem_append.1 hp with hp | hp
    · exact h.range p hp
    · rw [List.mem_singleton.1 hp]
      exact hbound
  · intro p hp
    rcases List.mem_append.1 hp with hp | hp
    · exact h.le p hp
    · exact Int.le_of_eq (List.mem_singleton.1 hp)

/-- What a check has requested of the models that it wants, when it drew its first number. -/
structure Requests (first : Nat) (wanted rest : List ModelEntry) (t : Told) : Prop where
  requested : t.requested ++ rest = wanted
  drawn : t.downloader.nextReply = first + t.requested.length

/-- While a check is under way. -/
structure Underway (first : Nat) (wanted : List ModelEntry) (t : Told) (percents : List Int) (r : Reply)
    (rest : List ModelEntry) : Prop where
  fetching : Fetching t.downloader r rest
  requests : Requests first wanted rest t
  told : t.told = percents.map .downloadProgress
  rising : Rising percents (overall t.downloader (t.fraction r.id))
  fraction : 0 ≤ t.fraction r.id ∧ t.fraction r.id ≤ 100
  untouched : ∀ id, t.downloader.nextReply ≤ id → t.fraction id = 0
  old : r.id < t.downloader.nextReply

/-- Once a check has ended: it says that the models are ready after it has requested all of them. -/
structure Over (first : Nat) (wanted : List ModelEntry) (t : Told) (percents : List Int) : Prop where
  quiet : t.downloader.inFlight = []
  requests : ∃ rest, Requests first wanted rest t ∧ (.allModelsReady ∈ t.told → rest = [])
  told : ∃ final, IsEnd final ∧ t.told = percents.map .downloadProgress ++ [final]
  rising : Rising percents 100

/-- A check is under way or over. -/
def Telling (first : Nat) (wanted : List ModelEntry) (t : Told) : Prop :=
  ∃ percents, (∃ r rest, Underway first wanted t percents r rest) ∨ Over first wanted t percents

variable {first : Nat} {wanted : List ModelEntry} {t : Told} {percents : List Int}

/-- A percentage is no end. -/
theorem not_mem_percents {s : DownloaderSignal} (hs : IsEnd s) (percents : List Int) :
    s ∉ percents.map DownloaderSignal.downloadProgress := by
  intro hmem
  obtain ⟨p, -, rfl⟩ := List.mem_map.1 hmem
  exact hs

/-- A reply that tells its progress reports one more percentage, or nothing. -/
theorem telling_progress (h : Underway first wanted t percents r rest) {id : Nat} {received total : Int}
    (he : Forward t (.replyProgress id received total)) :
    Telling first wanted (t.step M (.replyProgress id received total)) := by
  have hreply := h.fetching.replyOf id
  have hnone := h.fetching.requests_self h.old
  by_cases hid : r.id = id
  · subst hid
    rw [if_pos rfl] at hreply
    by_cases htotal : total > 0
    · obtain ⟨hreceived, hle, hforward⟩ := he htotal
      obtain ⟨hlow, hhigh⟩ := fraction_bounds htotal hreceived hle
      have hstep : t.step M (.replyProgress r.id received total) =
          { downloader := t.downloader
            requested := t.requested
            told := t.told ++ [.downloadProgress (overall t.downloader ((received * 100).tdiv total))]
            fraction := Function.update t.fraction r.id ((received * 100).tdiv total) } := by
        simp only [Told.step, ModelDownloader.step, hreply, onReplyProgress, htotal, if_true, true_and, Option.isSome_some,
          overall, hnone, List.append_nil]
      have hbounds := overall_bounds h.fetching hlow hhigh
      have hself : Function.update t.fraction r.id ((received * 100).tdiv total) r.id = (received * 100).tdiv total :=
        Function.update_self _ _ _
      rw [hstep]
      refine ⟨percents ++ [overall t.downloader ((received * 100).tdiv total)], Or.inl ⟨r, rest, h.fetching,
        ⟨h.requests.requested, h.requests.drawn⟩, ?_, ?_, ?_, ?_, h.old⟩⟩
      · rw [h.told, List.map_append]
        rfl
      · simp only [hself]
        exact (h.rising.mono (overall_mono h.fetching h.fraction.1 hforward)).concat hbounds
      · simp only [hself]
        exact ⟨hlow, hhigh⟩
      · intro id hlater
        have hold := h.old
        have hne : id ≠ r.id := by
          rintro rfl
          exact absurd hold (Nat.not_lt.2 hlater)
        simp only [Function.update_of_ne hne]
        exact h.untouched id hlater
    · have hstep : t.step M (.replyProgress r.id received total) = t := by
        simp [Told.step, ModelDownloader.step, hreply, onReplyProgress, htotal, hnone]
      rw [hstep]
      exact ⟨percents, Or.inl ⟨r, rest, h⟩⟩
  · rw [if_neg hid] at hreply
    have hstep : t.step M (.replyProgress id received total) = t := by
      simp [Told.step, ModelDownloader.step, hreply, hnone]
    rw [hstep]
    exact ⟨percents, Or.inl ⟨r, rest, h⟩⟩

/-- One more file that is there is a file at 100 percent. -/
theorem tdiv_completed (d : ModelDownloader) :
    (((d.completedCount + 1 : Nat) : Int) * 100).tdiv d.totalCount = overall d 100 := by
  rw [overall]
  congr 1
  omega

/-- The percentages reach that of a file which is there. -/
theorem Underway.rising_full (h : Underway first wanted t percents r rest) :
    Rising (percents ++ [overall t.downloader 100]) (overall t.downloader 100) ∧ overall t.downloader 100 ≤ 100 := by
  have hfull := overall_bounds h.fetching (p := 100) (by omega) (by omega)
  exact ⟨(h.rising.mono (overall_mono h.fetching h.fraction.1 h.fraction.2)).concat hfull, hfull.2⟩

section

variable {result : Except String Bytes} {writable : Bool} {data : Bytes}

/-- A reply that fails is the end of the check. -/
theorem telling_failed (h : Underway first wanted t percents r rest) {d' : ModelDownloader} {reason : String}
    (hstep : step M t.downloader (.replyFinished r.id result writable) = (d', [.downloadError reason]))
    (hpops : Pops M (t.downloader.forget r.id) d' r.entry rest) :
    Telling first wanted (t.step M (.replyFinished r.id result writable)) := by
  have hquiet : d'.inFlight = [] := hpops.inFlight.trans h.fetching.forget
  have hrising : Rising percents 100 :=
    h.rising.mono (Int.le_trans (overall_mono h.fetching h.fraction.1 h.fraction.2) h.rising_full.2)
  have hnext : t.step M (.replyFinished r.id result writable) =
      { t with downloader := d', told := percents.map .downloadProgress ++ [.downloadError reason] } := by
    simp only [Told.step, hstep, requests_of_quiet hquiet, List.append_nil, h.told]
  rw [hnext]
  refine ⟨percents, Or.inr ⟨hquiet, ⟨rest, ⟨h.requests.requested, hpops.nextReply.trans h.requests.drawn⟩, ?_⟩,
    ⟨.downloadError reason, trivial, rfl⟩, hrising⟩⟩
  intro hready
  rcases List.mem_append.1 hready with hready | hready
  · exact absurd hready (not_mem_percents (s := .allModelsReady) trivial percents)
  · cases List.mem_singleton.1 hready

/-- The last file is the end of the check. -/
theorem telling_ready (h : Underway first wanted t percents r [])
    (hstep : step M t.downloader (.replyFinished r.id result writable) =
      ((t.downloader.forget r.id).accept M r r.entry [] data,
        [.downloadProgress (overall t.downloader 100), .allModelsReady])) :
    Telling first wanted (t.step M (.replyFinished r.id result writable)) := by
  obtain ⟨hrising, hfull⟩ := h.rising_full
  have hquiet := (h.fetching.accept (M := M) data).1
  have hnext : t.step M (.replyFinished r.id result writable) =
      { t with
        downloader := (t.downloader.forget r.id).accept M r r.entry [] data
        told := (percents ++ [overall t.downloader 100]).map .downloadProgress ++ [.allModelsReady] } := by
    simp [Told.step, hstep, requests_of_quiet hquiet, h.told]
  rw [hnext]
  exact ⟨percents ++ [overall t.downloader 100], Or.inr ⟨hquiet, ⟨[], ⟨h.requests.requested, h.requests.drawn⟩, fun _ => rfl⟩,
    ⟨.allModelsReady, trivial, rfl⟩, hrising.mono hfull⟩⟩

/-- After another file the next model is requested. -/
theorem telling_next {entry : ModelEntry} (h : Underway first wanted t percents r (entry :: rest)) {d' : ModelDownloader}
    (hd' : d' = (downloadNext ((t.downloader.forget r.id).accept M r r.entry (entry :: rest) data)).1)
    (hstep : step M t.downloader (.replyFinished r.id result writable) =
      (d', [.downloadProgress (overall t.downloader 100)])) :
    Telling first wanted (t.step M (.replyFinished r.id result writable)) := by
  obtain ⟨hquiet, hcount⟩ := h.fetching.accept (M := M) data
  obtain ⟨-, hdrawn, -, hcompleted, htotal, hfetching⟩ := fetching_downloadNext hquiet rfl hcount
  rw [← hd'] at hdrawn hcompleted htotal hfetching
  have hnumber : d'.nextReply = t.downloader.nextReply + 1 := hdrawn
  have hrequest : ModelDownloader.requests t.downloader d' = [entry] := hfetching.requests_new
  have hnext : t.step M (.replyFinished r.id result writable) =
      { t with
        downloader := d'
        requested := t.requested ++ [entry]
        told := (percents ++ [overall t.downloader 100]).map .downloadProgress } := by
    simp [Told.step, hstep, hrequest, h.told]
  have hzero : t.fraction t.downloader.nextReply = 0 := h.untouched _ (Nat.le_refl _)
  have hstart : overall d' 0 = overall t.downloader 100 := by
    rw [← tdiv_completed, overall, hcompleted, htotal, Int.add_zero]
    rfl
  rw [hnext]
  refine ⟨percents ++ [overall t.downloader 100],
    Or.inl ⟨⟨t.downloader.nextReply, entry⟩, rest, hfetching, ⟨?_, ?_⟩, rfl, ?_, ?_, ?_, ?_⟩⟩
  · rw [List.append_assoc]
    exact h.requests.requested
  · rw [hnumber, h.requests.drawn, List.length_append]
    rfl
  · simp only [hzero, hstart]
    exact h.rising_full.1
  · simp only [hzero]
    omega
  · intro id hlater
    rw [hnumber] at hlater
    exact h.untouched id (Nat.le_of_succ_le hlater)
  · rw [hnumber]
    exact Nat.lt_succ_self _

end

/-- A reply that ends requests the next model, or is the end of the check. -/
theorem telling_finished (h : Underway first wanted t percents r rest) (id : Nat) (result : Except String Bytes)
    (writable : Bool) : Telling first wanted (t.step M (.replyFinished id result writable)) := by
  by_cases hid : r.id = id
  · subst hid
    rcases h.fetching.finished (M := M) result writable with ⟨d', reason, hstep, hpops⟩ | ⟨data, -, -, -, hstep⟩
    · exact telling_failed h hstep hpops
    · have hpending : ((t.downloader.forget r.id).accept M r r.entry rest data).pending = rest := rfl
      obtain ⟨hquiet, hcount⟩ := h.fetching.accept (M := M) data
      rw [tdiv_completed] at hstep
      cases rest with
      | nil =>
        rw [downloadNext_nil hpending] at hstep
        exact telling_ready h hstep
      | cons entry rest =>
        rw [(fetching_downloadNext hquiet hpending hcount).1] at hstep
        exact telling_next h rfl hstep
  · have hstray := h.fetching.stray (M := M) hid result writable
    have hstep : t.step M (.replyFinished id result writable) = t := by
      simp [Told.step, hstray, h.fetching.requests_self h.old]
    rw [hstep]
    exact ⟨percents, Or.inl ⟨r, rest, h⟩⟩

/-- Every event keeps the check under way or ends it. -/
theorem telling_step (h : Telling first wanted t) {e : Event} (he : Forward t e) : Telling first wanted (t.step M e) := by
  obtain ⟨percents, ⟨r, rest, hunderway⟩ | hover⟩ := h
  · cases e with
    | checkAndDownload => exact he.elim
    | replyProgress id received total => exact telling_progress hunderway he
    | replyFinished id result writable => exact telling_finished hunderway id result writable
  · have hreply (id : Nat) : t.downloader.replyOf id = none := by
      rw [ModelDownloader.replyOf, hover.quiet]
      rfl
    have hstep : t.step M e = t := by
      cases e with
      | checkAndDownload => exact he.elim
      | _ => simp [Told.step, ModelDownloader.step, hreply, requests_of_quiet hover.quiet]
    rw [hstep]
    exact ⟨percents, Or.inr hover⟩

/-- The check itself. -/
theorem telling_check (hquiet : d.inFlight = []) :
    Telling d.nextReply (missing M d) (Told.step M { downloader := d } .checkAndDownload) := by
  have hnothing (bound : Int) : Rising [] bound := ⟨List.Pairwise.nil, by simp, by simp⟩
  have hstep : step M d .checkAndDownload = downloadNext (checked M d) := checkAndDownload_eq M d
  cases hmissing : missing M d with
  | nil =>
    have hpending : (checked M d).pending = [] := hmissing
    have hquiet' : (checked M d).inFlight = [] := hquiet
    rw [downloadNext_nil hpending] at hstep
    have hnext : Told.step M { downloader := d } .checkAndDownload =
        { downloader := checked M d, told := [.allModelsReady] } := by
      simp [Told.step, hstep, requests_of_quiet hquiet']
    rw [hnext]
    exact ⟨[], Or.inr ⟨hquiet, ⟨[], ⟨rfl, rfl⟩, fun _ => rfl⟩, ⟨.allModelsReady, trivial, rfl⟩, hnothing 100⟩⟩
  | cons entry rest =>
    have hpending : (checked M d).pending = entry :: rest := hmissing
    have hquiet' : (checked M d).inFlight = [] := hquiet
    obtain ⟨hsilent, hdrawn, -, -, -, hfetching⟩ := fetching_downloadNext hquiet' hpending (count_checked d)
    have hrequest : requests d (downloadNext (checked M d)).1 = [entry] := hfetching.requests_new
    have hnumber : (downloadNext (checked M d)).1.nextReply = d.nextReply + 1 := hdrawn
    have hnext : Told.step M { downloader := d } .checkAndDownload =
        { downloader := (downloadNext (checked M d)).1, requested := [entry] } := by
      simp [Told.step, hstep, hsilent, hrequest]
    rw [hnext]
    refine ⟨[], Or.inl ⟨⟨d.nextReply, entry⟩, rest, hfetching, ⟨rfl, hnumber⟩, rfl, hnothing _, by simp, fun _ _ => rfl, ?_⟩⟩
    rw [hnumber]
    exact Nat.lt_succ_self _

/-- A check that is made while nothing is in flight, and followed by its replies, whose progress does not go back: it
requests the missing models in their order, each once and one at a time, and all of them when it says that they are ready;
its percentages stay between 0 and 100 and never fall; and when nothing is in flight any more, and only then, it has said
at the end, and once, that the models are ready or that one failed. -/
theorem one_check (M : ModelStore) (d : ModelDownloader) (hquiet : d.inFlight = []) (es : List Event)
    (hes : EveryStep (Told.step M) Forward (Told.step M { downloader := d } .checkAndDownload) es) :
    let t := run (Told.step M) { downloader := d } (.checkAndDownload :: es)
    t.downloader.inFlight.length ≤ 1 ∧ t.requested <+: missing M d ∧
      t.downloader.nextReply = d.nextReply + t.requested.length ∧ (.allModelsReady ∈ t.told → t.requested = missing M d) ∧
      ∃ (percents : List Int) (finals : List DownloaderSignal),
        t.told = percents.map .downloadProgress ++ finals ∧ percents.Pairwise (· ≤ ·) ∧
        (∀ p ∈ percents, 0 ≤ p ∧ p ≤ 100) ∧ (∀ s ∈ finals, IsEnd s) ∧
          finals.length = if t.downloader.inFlight = [] then 1 else 0 := by
  intro t
  have hkeep : ∀ u e, Telling d.nextReply (missing M d) u → Forward u e → Telling d.nextReply (missing M d) (u.step M e) :=
    fun _ _ h he => telling_step h he
  have hrun : t = run (Told.step M) (Told.step M { downloader := d } .checkAndDownload) es := run_cons _ _ _ _
  have htelling : Telling d.nextReply (missing M d) t := by
    rw [hrun]
    exact inv_run hkeep (telling_check hquiet) hes
  obtain ⟨percents, ⟨r, rest, hunderway⟩ | hover⟩ := htelling
  · have hinFlight := hunderway.fetching.inFlight
    refine ⟨by simp [hinFlight], ⟨rest, hunderway.requests.requested⟩, hunderway.requests.drawn, fun hready => ?_, percents, [],
      ?_, hunderway.rising.sorted, hunderway.rising.range, by simp, by simp [hinFlight]⟩
    · rw [hunderway.told] at hready
      exact absurd hready (not_mem_percents (s := .allModelsReady) trivial percents)
    · rw [hunderway.told, List.append_nil]
  · obtain ⟨final, hfinal, htold⟩ := hover.told
    obtain ⟨rest, hrequests, hready⟩ := hover.requests
    refine ⟨by simp [hover.quiet], ⟨rest, hrequests.requested⟩, hrequests.drawn, fun hmem => ?_, percents, [final], htold,
      hover.rising.sorted, hover.rising.range, ?_, by simp [hover.quiet]⟩
    · rw [← hrequests.requested, hready hmem, List.append_nil]
    · intro s hs
      rw [List.mem_singleton.1 hs]
      exact hfinal

/-- Two models are fetched, the first with a word on its progress. -/
theorem one_check_two_models :
    let t := run (Told.step twoModels) { downloader := { disk := fun _ => none } }
      [.checkAndDownload, .replyProgress 0 50 100, .replyFinished 0 (.ok [0x61]) true, .replyFinished 1 (.ok [0x62]) true]
    t.requested = [melspectrogram, embeddingModel] ∧ t.requested <+: missing twoModels { disk := fun _ => none } :=
  ⟨by decide +kernel, (one_check twoModels { disk := fun _ => none } rfl
    [.replyProgress 0 50 100, .replyFinished 0 (.ok [0x61]) true, .replyFinished 1 (.ok [0x62]) true]
    ⟨fun _ => ⟨by decide, by decide, by decide⟩, trivial, trivial, trivial⟩).2.1⟩

/-! ## What is verified stays verified -/

/-- A check is made only while nothing is in flight. -/
def Serial (d : ModelDownloader) (e : Event) : Prop := e = .checkAndDownload → d.inFlight = []

/-- Nothing is in flight, or one reply for the head of the pending list. -/
def OneReply (d : ModelDownloader) : Prop := d.inFlight = [] ∨ ∃ r rest, Fetching d r rest

/-- If checks are made while nothing is in flight, there is never more than one reply. -/
theorem oneReply_step (h : OneReply d) {e : Event} (he : Serial d e) : OneReply (next M d e) := by
  rcases h with hquiet | ⟨r, rest, hfetching⟩
  · cases e with
    | checkAndDownload =>
      have hstep : next M d .checkAndDownload = (downloadNext (checked M d)).1 := congrArg Prod.fst (checkAndDownload_eq M d)
      rw [hstep]
      cases hpending : (checked M d).pending with
      | nil =>
        rw [downloadNext_nil hpending]
        exact Or.inl hquiet
      | cons entry rest =>
        obtain ⟨-, -, -, -, -, hnext⟩ := fetching_downloadNext (d := checked M d) hquiet hpending (count_checked d)
        exact Or.inr ⟨_, _, hnext⟩
    | replyProgress id received total =>
      rw [next, step_of_quiet (M := M) hquiet (by simp)]
      exact Or.inl hquiet
    | replyFinished id result writable =>
      rw [next, step_of_quiet (M := M) hquiet (by simp)]
      exact Or.inl hquiet
  · cases e with
    | checkAndDownload =>
      have hquiet := he rfl
      rw [hfetching.inFlight] at hquiet
      cases hquiet
    | replyProgress id received total =>
      rw [next_replyProgress]
      exact Or.inr ⟨r, rest, hfetching⟩
    | replyFinished id result writable =>
      by_cases hid : r.id = id
      · subst hid
        rcases hfetching.finished (M := M) result writable with ⟨d', reason, hstep, hpops⟩ | ⟨data, -, -, -, hstep⟩
        · rw [next, hstep]
          exact Or.inl (hpops.inFlight.trans hfetching.forget)
        · rw [next, hstep]
          have hpending : ((d.forget r.id).accept M r r.entry rest data).pending = rest := rfl
          obtain ⟨hquiet, hcount⟩ := hfetching.accept (M := M) data
          cases rest with
          | nil =>
            rw [downloadNext_nil hpending]
            exact Or.inl hquiet
          | cons entry rest =>
            obtain ⟨-, -, -, -, -, hnext⟩ := fetching_downloadNext hquiet hpending hcount
            exact Or.inr ⟨_, _, hnext⟩
      · rw [next, hfetching.stray hid]
        exact Or.inr ⟨r, rest, hfetching⟩

/-- Going on to the next model leaves the disk. -/
theorem disk_downloadNext (d : ModelDownloader) : (downloadNext d).1.disk = d.disk := by
  cases hp : d.pending with
  | nil => rw [downloadNext_nil hp]
  | cons entry rest => rw [downloadNext_cons hp]

/-- A reply that is the only one is for the head of the pending list. -/
theorem not_misdelivers_of_oneReply (h : OneReply d) (e : Event) : ¬Misdelivers M d e := by
  cases e with
  | checkAndDownload => exact fun hmis => hmis
  | replyProgress id received total => exact fun hmis => hmis
  | replyFinished id result writable =>
    cases result with
    | error what => exact fun hmis => hmis
    | ok data =>
      cases writable with
      | false => exact fun hmis => hmis
      | true =>
        rintro ⟨r, entry, rest, hreply, hpending, hne, -, -⟩
        rcases h with hquiet | ⟨r', rest', hfetching⟩
        · rw [ModelDownloader.replyOf, hquiet] at hreply
          cases hreply
        · rw [hfetching.replyOf] at hreply
          split at hreply
          · cases hreply
            rw [hfetching.pending] at hpending
            exact hne (List.cons.inj hpending).1
          · cases hreply

/-- A step loses nothing that is verified, what is in flight after it is for a model that is not, and it announces the
models when all are verified and nothing is in flight. -/
structure Steady (M : ModelStore) (d : ModelDownloader) (e : Event) : Prop where
  kept : ∀ x ∈ M.manifest, Verified M d x → Verified M (next M d e) x
  needed : ∀ r ∈ (next M d e).inFlight, r.entry ∈ M.manifest ∧ ¬Verified M (next M d e) r.entry
  ready : .allModelsReady ∈ (step M d e).2 → (∀ x ∈ M.manifest, Verified M (next M d e) x) ∧ (next M d e).inFlight = []

/-- What is verified stays verified. -/
theorem kept_step (hnames : (M.manifest.map (·.name)).Nodup) (h : OneReply d) (hstanding : Standing M d) {e : Event}
    {x : ModelEntry} (hx : x ∈ M.manifest) (hverified : Verified M d x) : Verified M (next M d e) x := by
  have hdisk {d' : ModelDownloader} (hd' : d'.disk = d.disk) : Verified M d' x := by
    rw [Verified, hd']
    exact hverified
  cases e with
  | checkAndDownload =>
    have hstep : next M d .checkAndDownload = (downloadNext (checked M d)).1 := congrArg Prod.fst (checkAndDownload_eq M d)
    rw [hstep]
    exact hdisk (disk_downloadNext _)
  | replyProgress id received total =>
    rw [next_replyProgress]
    exact hverified
  | replyFinished id result writable =>
    rcases h with hquiet | ⟨r, rest, hfetching⟩
    · rw [next, step_of_quiet (M := M) hquiet (by simp)]
      exact hverified
    · by_cases hid : r.id = id
      · subst hid
        have hhead : r.entry ∈ d.pending := by
          rw [hfetching.pending]
          exact List.mem_cons_self
        have hne : x ≠ r.entry := by
          rintro rfl
          exact hstanding.unverified _ hhead hverified
        have hentry := hstanding.subset _ hhead
        rcases hfetching.finished (M := M) result writable with ⟨d', reason, hstep, hpops⟩ | ⟨data, -, -, -, hstep⟩
        · rw [next, hstep]
          exact (verified_iff_of_ne hnames hpops.disk hentry hx hne).2 hverified
        · rw [next, hstep, Verified, disk_downloadNext]
          have hother : ∀ path, path ≠ modelPath M r.entry.name →
              ((d.forget r.id).accept M r r.entry rest data).disk path = d.disk path := fun path hpath => if_neg hpath
          exact (verified_iff_of_ne hnames hother hentry hx hne).2 hverified
      · rw [next, hfetching.stray hid]
        exact hverified

/-- A step keeps one reply at most, and loses no verified model. -/
theorem steady_step (hnames : (M.manifest.map (·.name)).Nodup) {e : Event} (h : OneReply d ∧ Standing M d) (he : Serial d e) :
    (OneReply (next M d e) ∧ Standing M (next M d e)) ∧ Steady M d e := by
  obtain ⟨hone, hstanding⟩ := h
  have hone' := oneReply_step (M := M) hone he
  obtain ⟨hstanding', hannounces⟩ := standing_step M hnames hstanding (not_misdelivers_of_oneReply (M := M) hone e)
  have hneeded : ∀ r ∈ (next M d e).inFlight, r.entry ∈ M.manifest ∧ ¬Verified M (next M d e) r.entry := by
    intro r hr
    rcases hone' with hquiet | ⟨r', rest, hfetching⟩
    · rw [hquiet] at hr
      cases hr
    · rw [hfetching.inFlight] at hr
      obtain rfl := List.mem_singleton.1 hr
      have hhead : r.entry ∈ (next M d e).pending := by
        rw [hfetching.pending]
        exact List.mem_cons_self
      exact ⟨hstanding'.subset _ hhead, hstanding'.unverified _ hhead⟩
  refine ⟨⟨hone', hstanding'⟩, fun x hx hverified => kept_step hnames hone hstanding hx hverified, hneeded, fun hready => ?_⟩
  have hall := hannounces hready
  refine ⟨hall, List.eq_nil_iff_forall_not_mem.2 fun r hr => ?_⟩
  obtain ⟨hentry, hnot⟩ := hneeded r hr
  exact hnot (hall _ hentry)

/-- The cache is complete, and nothing is in flight. -/
structure Complete (M : ModelStore) (disk : String → Option Bytes) (d : ModelDownloader) : Prop where
  quiet : d.inFlight = []
  disk : d.disk = disk
  all : ∀ x ∈ M.manifest, Verified M d x

/-- On a complete cache whatever happens changes no file, and a check finds the models ready. -/
theorem complete_step {disk : String → Option Bytes} (h : Complete M disk d) (e : Event) :
    Complete M disk (next M d e) ∧ ∀ s ∈ (step M d e).2, s = .allModelsReady := by
  by_cases he : e = .checkAndDownload
  · subst he
    have hmissing : missing M d = [] := by
      rw [missing, List.filter_eq_nil_iff]
      intro x hx
      have hverified : verifyFile M d.disk (modelPath M x.name) x.sha256 = true := h.all x hx
      simp [hverified]
    have hpending : (checked M d).pending = [] := hmissing
    have hstep : step M d .checkAndDownload = (checked M d, [.allModelsReady]) := by
      rw [step, checkAndDownload_eq]
      exact downloadNext_nil hpending
    rw [next, hstep]
    exact ⟨⟨h.quiet, h.disk, h.all⟩, fun s hs => List.mem_singleton.1 hs⟩
  · rw [next, step_of_quiet h.quiet he]
    exact ⟨h, by simp⟩

/-- Over every run on a complete cache no file changes, and only "ready" is said. -/
theorem complete_run {disk : String → Option Bytes} (h : Complete M disk d) (es : List Event) :
    (run (next M) d es).disk = disk ∧ ∀ s ∈ signals M d es, s = .allModelsReady := by
  induction es generalizing d with
  | nil => exact ⟨h.disk, by simp [signals]⟩
  | cons e es ih =>
    obtain ⟨hnext, hsignals⟩ := complete_step h e
    obtain ⟨hdisk, hlater⟩ := ih hnext
    refine ⟨hdisk, fun s hs => ?_⟩
    rcases List.mem_append.1 hs with hs | hs
    · exact hsignals s hs
    · exact hlater s hs

/-- From a downloader with nothing under way on, whatever the disk holds, in a run in which a check is made only while
nothing is in flight: no step loses a verified model or has a verified one fetched, the models are announced only when all
are there, and from an announcement on no run changes a file or says anything but that the models are ready. -/
theorem cache_grows (M : ModelStore) (hnames : (M.manifest.map (·.name)).Nodup) (disk : String → Option Bytes)
    (es : List Event) (hes : EveryStep (next M) Serial { disk := disk } es) :
    EveryStep (next M) (Steady M) { disk := disk } es ∧
      ∀ before e after, es = before ++ e :: after →
        .allModelsReady ∈ (step M (run (next M) { disk := disk } before) e).2 →
          ∀ later, let d := next M (run (next M) { disk := disk } before) e
            (run (next M) d later).disk = d.disk ∧ ∀ s ∈ signals M d later, s = .allModelsReady := by
  have hstart : OneReply { disk := disk } ∧ Standing M { disk := disk } :=
    ⟨Or.inl rfl, by simp, List.Pairwise.nil, by simp, by simp, by simp⟩
  have hsteady : ∀ es, EveryStep (next M) Serial { disk := disk } es → EveryStep (next M) (Steady M) { disk := disk } es :=
    fun es h => h.of_inv (fun d => OneReply d ∧ Standing M d) (fun d e hd he => steady_step hnames hd he) hstart
  refine ⟨hsteady es hes, ?_⟩
  rintro before e after rfl hready later
  have hstep : Steady M (run (next M) { disk := disk } before) e := by
    have hall := hsteady _ hes
    rw [everyStep_append] at hall
    exact hall.2.1
  obtain ⟨hverified, hquiet⟩ := hstep.ready hready
  exact complete_run ⟨hquiet, rfl, hverified⟩ later

/-- Two models are fetched one after the other. -/
theorem cache_grows_two_models :
    EveryStep (next twoModels) (Steady twoModels) { disk := fun _ => none }
      [.checkAndDownload, .replyFinished 0 (.ok [0x61]) true, .replyFinished 1 (.ok [0x62]) true] := by
  have hserial : EveryStep (next twoModels) Serial { disk := fun _ => none }
      [.checkAndDownload, .replyFinished 0 (.ok [0x61]) true, .replyFinished 1 (.ok [0x62]) true] := by
    refine ⟨fun _ => rfl, ?_, ?_, trivial⟩
    · intro h
      cases h
    · intro h
      cases h
  exact (cache_grows twoModels (by decide) (fun _ => none) _ hserial).1

end ModelDownloader

end PairionClient
