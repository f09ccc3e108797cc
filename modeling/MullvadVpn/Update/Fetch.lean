import Mathlib

/-!
The downloader of updates (`mullvad-update/src/client/fetch.rs`). An attempt asks for the size of the file,
checks it against a hint and appends what is missing, which it asks for by its range. An attempt that fails
because of the network is followed by another one, from where the file ends. The file is written through a
`BufWriter`: what waits in its buffer is flushed when the position is asked for and at the end, and lost when
the download gives up. What the server, the buffer and the file system do is part of each attempt.
-/

namespace MullvadVpn.Update.Fetch

open List

abbrev Bytes := List UInt8

/-- An error of the client, and whether `is_network_error` holds of it. -/
structure ReqwestError where
  isNetworkError : Bool

inductive ContentLengthError where
  | missing | invalidHeader | invalidFormat

inductive SizeError where
  | mismatch (expected served : Nat)
  | exceedsLimit (limit served : Nat)
  | existingLarger
  | moreThanRequested

inductive DownloadError where
  | clientInitialization (error : ReqwestError)
  | headRequest (error : ReqwestError)
  | httpStatus (status : Nat)
  | invalidContentLength (error : ContentLengthError)
  | rangeRequest (error : ReqwestError)
  | chunkRead (error : ReqwestError)
  | chunkWrite
  | streamPosition
  | flush
  | sizeValidation (error : SizeError)
  | fileOperation

def DownloadError.shouldRetry : DownloadError → Bool
  | headRequest error | rangeRequest error | chunkRead error | clientInitialization error =>
    error.isNetworkError
  | httpStatus status => (500 ≤ status && status < 600) || status == 408
  | _ => false

inductive SizeHint where
  | exact (expected : Nat)
  | maximum (limit : Nat)

def SizeHint.checkSize (actual : Nat) : SizeHint → Except SizeError Unit
  | exact expected => if actual ≠ expected then .error (.mismatch expected actual) else .ok ()
  | maximum limit => if actual > limit then .error (.exceedsLimit limit actual) else .ok ()

def SizeHint.Allows (size : Nat) : SizeHint → Prop
  | exact expected => size = expected
  | maximum limit => size ≤ limit

structure Head where
  status : Nat
  contentLength : Except ContentLengthError Nat

/-- A chunk of a body. How many of the bytes that wait are passed on when it is written is up to the
`BufWriter`. -/
structure Chunk where
  data : Bytes
  passed : Nat
  failed : Bool

/-- The answer to a request for a range: the chunks that arrive, and the error that they end with. -/
structure Response where
  status : Nat
  chunks : List Chunk
  error : Option ReqwestError

def Response.body (response : Response) : Bytes :=
  response.chunks.flatMap Chunk.data

/-- What happens in one attempt. Asking for the position and shutting down flush the buffer; if that fails,
it is after some number of bytes. -/
structure Attempt where
  client : Except ReqwestError Unit
  head : Except ReqwestError Head
  position : Option Nat
  get : Nat × Nat → Except ReqwestError Response
  shutdown : Option Nat

def isSuccess (status : Nat) : Bool :=
  200 ≤ status && status < 300

/-- The size that the server advertises. -/
def Attempt.totalSize (attempt : Attempt) : Except DownloadError Nat := do
  attempt.client.mapError .clientInitialization
  let head ← attempt.head.mapError .headRequest
  if !isSuccess head.status then throw (.httpStatus head.status)
  head.contentLength.mapError .invalidContentLength

def Attempt.checkedSize (attempt : Attempt) (sizeHint : SizeHint) : Except DownloadError Nat := do
  let totalSize ← attempt.totalSize
  (sizeHint.checkSize totalSize).mapError .sizeValidation
  return totalSize

def Attempt.response (attempt : Attempt) (range : Nat × Nat) : Except DownloadError Response := do
  let response ← (attempt.get range).mapError .rangeRequest
  if !isSuccess response.status then throw (.httpStatus response.status)
  return response

structure RangeIter where
  current : Nat
  stop : Nat

namespace RangeIter

def next (self : RangeIter) : Option ((Nat × Nat) × RangeIter) :=
  if self.current > self.stop then none
  else
    let readN := self.stop - self.current
    if readN = 0 then none
    else some ((self.current, self.current + readN - 1), { self with current := self.current + readN })

/-- The first ranges of the iterator. -/
def take (self : RangeIter) : Nat → List (Nat × Nat)
  | 0 => []
  | n + 1 =>
    match self.next with
    | none => []
    | some (range, rest) => range :: rest.take n

/-- All that is missing is asked for at once. -/
theorem take_eq {current stop n : Nat} (h : current < stop) (hn : 0 < n) :
    (RangeIter.mk current stop).take n = [(current, stop - 1)] := by
  have hread : current + (stop - current) = stop := by omega
  have hnext : next ⟨current, stop⟩ = some ((current, stop - 1), ⟨stop, stop⟩) := by
    simp [next, hread, show ¬ current > stop by omega, show stop - current ≠ 0 by omega]
  obtain ⟨n, rfl⟩ : ∃ m, n = m + 1 := ⟨n - 1, by omega⟩
  rw [take, hnext]
  cases n <;> simp [take, next]

end RangeIter

/-- A file, and the bytes that wait to be written to it. -/
structure BufWriter where
  file : Bytes
  buffer : Bytes

namespace BufWriter

def new (file : Bytes) : BufWriter :=
  ⟨file, []⟩

def written (self : BufWriter) : Bytes :=
  self.file ++ self.buffer

/-- The first bytes that wait are written to the file. -/
def pass (self : BufWriter) (n : Nat) : BufWriter :=
  ⟨self.file ++ self.buffer.take n, self.buffer.drop n⟩

def write (self : BufWriter) (chunk : Chunk) : BufWriter :=
  { self with buffer := self.buffer ++ chunk.data }.pass chunk.passed

def flush (self : BufWriter) : Option Nat → Bool × BufWriter
  | none => (true, ⟨self.written, []⟩)
  | some n => (false, self.pass n)

/-- Bytes were written, and some of those that wait may have got into the file. -/
structure Receives (before after : BufWriter) (received : Bytes) : Prop where
  file : before.file <+: after.file
  written : after.written = before.written ++ received

variable {self self' self'' : BufWriter} {received received' : Bytes}

theorem Receives.trans (h : self.Receives self' received) (h' : self'.Receives self'' received') :
    self.Receives self'' (received ++ received') :=
  ⟨h.file.trans h'.file, by rw [h'.written, h.written, append_assoc]⟩

theorem receives_refl : self.Receives self [] :=
  ⟨prefix_rfl, by simp⟩

theorem receives_pass (n : Nat) : self.Receives (self.pass n) [] :=
  ⟨prefix_append .., by simp [pass, written]⟩

theorem receives_write (chunk : Chunk) : self.Receives (self.write chunk) chunk.data :=
  ⟨prefix_append .., by simp [write, pass, written]⟩

theorem receives_flush (fault : Option Nat) : self.Receives (self.flush fault).2 [] := by
  cases fault with
  | none => exact ⟨prefix_append .., by simp [flush, written]⟩
  | some n => exact receives_pass n

end BufWriter

/-- The chunks are written until there is one too much, or one that cannot be written. -/
def writeChunks (limit : Nat) (error : Option ReqwestError) (bytesRead : Nat) (writer : BufWriter) :
    List Chunk → Except DownloadError Unit × BufWriter
  | [] => (error.elim (.ok ()) fun error => .error (.chunkRead error), writer)
  | chunk :: chunks =>
    let bytesRead := bytesRead + chunk.data.length
    if bytesRead > limit then (.error (.sizeValidation .moreThanRequested), writer)
    else if chunk.failed then (.error .chunkWrite, writer.write chunk)
    else writeChunks limit error bytesRead (writer.write chunk) chunks

def fetchRanges (attempt : Attempt) (limit : Nat) (writer : BufWriter) :
    List (Nat × Nat) → Except DownloadError Unit × BufWriter
  | [] =>
    match writer.flush attempt.shutdown with
    | (false, writer) => (.error .flush, writer)
    | (true, writer) => (.ok (), writer)
  | range :: ranges =>
    match attempt.response range with
    | .error error => (.error error, writer)
    | .ok response =>
      match writeChunks limit response.error 0 writer response.chunks with
      | (.ok (), writer) => fetchRanges attempt limit writer ranges
      | (.error error, writer) => (.error error, writer)

def getToWriter (sizeHint : SizeHint) (attempt : Attempt) (writer : BufWriter) :
    Except DownloadError Unit × BufWriter :=
  match attempt.checkedSize sizeHint with
  | .error error => (.error error, writer)
  | .ok totalSize =>
    match writer.flush attempt.position with
    | (false, writer) => (.error .streamPosition, writer)
    | (true, writer) =>
      let alreadyFetchedBytes := writer.file.length
      if totalSize = alreadyFetchedBytes then (.ok (), writer)
      else if alreadyFetchedBytes > totalSize then (.error (.sizeValidation .existingLarger), writer)
      else
        let limit := totalSize - alreadyFetchedBytes
        fetchRanges attempt limit writer ((RangeIter.mk alreadyFetchedBytes totalSize).take limit)

def maxRetryAttempts : Nat := 4

/-- The attempts are numbered by how many may follow. -/
def retry (sizeHint : SizeHint) (attempts : Nat → Attempt) (writer : BufWriter) :
    Nat → Except DownloadError Unit × BufWriter
  | 0 => getToWriter sizeHint (attempts 0) writer
  | n + 1 =>
    match getToWriter sizeHint (attempts (n + 1)) writer with
    | (.ok (), writer) => (.ok (), writer)
    | (.error error, writer) =>
      if error.shouldRetry then retry sizeHint attempts writer n else (.error error, writer)

/-- The buffer is dropped with the `BufWriter`. -/
def getToFile (sizeHint : SizeHint) (opened : Bool) (attempts : Nat → Attempt) (file : Bytes) :
    Except DownloadError Unit × Bytes :=
  if opened then
    let (result, writer) := retry sizeHint attempts (.new file) (maxRetryAttempts - 1)
    (result, writer.file)
  else (.error .fileOperation, file)

/-- A request for the range gets the body, and nothing fails from then on. -/
def Attempt.Answers (attempt : Attempt) (range : Nat × Nat) (body : Bytes) : Prop :=
  attempt.shutdown = none ∧ ∃ response, attempt.response range = .ok response ∧ response.error = none ∧
    (∀ chunk ∈ response.chunks, chunk.failed = false) ∧ response.body = body

/-- An attempt with so many bytes written gets a body, and nothing fails. -/
structure Attempt.Delivers (attempt : Attempt) (start totalSize : Nat) (body : Bytes) : Prop where
  size : attempt.totalSize = .ok totalSize
  position : attempt.position = none
  fits : start + body.length ≤ totalSize
  body : start = totalSize ∨ attempt.Answers (start, totalSize - 1) body

/-- A server that honours requests for ranges of a content, except that it may fail. -/
structure Attempt.Serves (attempt : Attempt) (content : Bytes) : Prop where
  size : ∀ totalSize, attempt.totalSize = .ok totalSize → totalSize = content.length
  body : ∀ start stop response, attempt.response (start, stop) = .ok response →
    response.body <+: (content.drop start).take (stop + 1 - start)
  complete : ∀ start stop response, attempt.response (start, stop) = .ok response → response.error = none →
    response.body = (content.drop start).take (stop + 1 - start)

open BufWriter

section Chunks

variable (limit : Nat) (error : Option ReqwestError)

/-- What is written is part of the body, never more than the limit, and all of it if nothing fails. -/
theorem writeChunks_receives (bytesRead : Nat) (writer : BufWriter) (chunks : List Chunk)
    (hread : bytesRead ≤ limit) :
    ∃ received, writer.Receives (writeChunks limit error bytesRead writer chunks).2 received ∧
      bytesRead + received.length ≤ limit ∧ received <+: chunks.flatMap Chunk.data ∧
      ((writeChunks limit error bytesRead writer chunks).1 = .ok () →
        received = chunks.flatMap Chunk.data) := by
  induction chunks generalizing bytesRead writer with
  | nil => exact ⟨[], receives_refl, hread, prefix_rfl, fun _ => rfl⟩
  | cons chunk chunks ih =>
    simp only [writeChunks]
    split_ifs with hlimit hfailed
    · exact ⟨[], receives_refl, hread, nil_prefix, fun h => by cases h⟩
    · exact ⟨chunk.data, receives_write chunk, by omega, prefix_append .., fun h => by cases h⟩
    · obtain ⟨received, hreceives, hlength, hpart, hok⟩ :=
        ih (bytesRead + chunk.data.length) (writer.write chunk) (by omega)
      refine ⟨chunk.data ++ received, (receives_write chunk).trans hreceives, ?_,
        (prefix_append_right_inj _).mpr hpart, fun h => by rw [hok h, flatMap_cons]⟩
      rw [length_append]
      omega

theorem writeChunks_ok_iff (bytesRead : Nat) (writer : BufWriter) (chunks : List Chunk)
    (hread : bytesRead ≤ limit) : (writeChunks limit error bytesRead writer chunks).1 = .ok () ↔
      error = none ∧ (∀ chunk ∈ chunks, chunk.failed = false) ∧
        bytesRead + (chunks.flatMap Chunk.data).length ≤ limit := by
  induction chunks generalizing bytesRead writer with
  | nil => cases error <;> simp [writeChunks, hread]
  | cons chunk chunks ih =>
    simp only [writeChunks]
    split_ifs with hlimit hfailed
    · simp
      omega
    · simp [hfailed]
    · rw [ih (bytesRead + chunk.data.length) (writer.write chunk) (by omega)]
      simp [hfailed, Nat.add_assoc]

end Chunks

variable {attempt : Attempt} {attempts : Nat → Attempt} {sizeHint : SizeHint} {file content : Bytes}
  {writer writer' : BufWriter} {totalSize : Nat}

theorem Attempt.checkedSize_eq_ok :
    attempt.checkedSize sizeHint = .ok totalSize ↔ attempt.totalSize = .ok totalSize ∧
      sizeHint.Allows totalSize := by
  unfold checkedSize
  cases attempt.totalSize with
  | error _ => exact ⟨fun h => (by cases h), fun h => by cases h.1⟩
  | ok size =>
    simp only [bind, Except.bind, pure, Except.pure]
    cases sizeHint <;> unfold SizeHint.checkSize SizeHint.Allows <;> dsimp only <;> split_ifs <;>
      simp [Except.mapError] <;> omega

/-- An attempt wrote a part of the body that it was answered with, and at most up to the advertised size. If it
succeeded, it was delivered all that it wrote and left nothing in the buffer. -/
structure Attempt.Wrote (attempt : Attempt) (sizeHint : SizeHint) (writer : BufWriter)
    (result : Except DownloadError Unit × BufWriter) (received : Bytes) : Prop where
  receives : writer.Receives result.2 received
  answered : received = [] ∨ ∃ totalSize response, attempt.totalSize = .ok totalSize ∧
    attempt.response (writer.written.length, totalSize - 1) = .ok response ∧ received <+: response.body ∧
    writer.written.length + received.length ≤ totalSize
  delivered : result.1 = .ok () → result.2.buffer = [] ∧ ∃ totalSize, sizeHint.Allows totalSize ∧
    attempt.Delivers writer.written.length totalSize received

theorem Attempt.Wrote.of_error {error : DownloadError} (h : writer.Receives writer' []) :
    attempt.Wrote sizeHint writer (.error error, writer') [] :=
  ⟨h, .inl rfl, fun h => by cases h⟩

/-- Fetching a range writes a part of the body, and all of it exactly if nothing fails. -/
theorem fetchRanges_range (attempt : Attempt) (limit : Nat) (writer : BufWriter) (range : Nat × Nat) :
    let result := fetchRanges attempt limit writer [range]
    ∃ received, writer.Receives result.2 received ∧ received.length ≤ limit ∧
      (received = [] ∨ ∃ response, attempt.response range = .ok response ∧ received <+: response.body) ∧
      (result.1 = .ok () → result.2.buffer = [] ∧ attempt.Answers range received) ∧
      ∀ body, attempt.Answers range body → body.length ≤ limit →
        result = (.ok (), ⟨writer.written ++ body, []⟩) := by
  dsimp only [Attempt.Answers]
  rw [fetchRanges]
  cases attempt.response range with
  | error error => exact ⟨[], receives_refl, Nat.zero_le _, .inl rfl, fun h => (by cases h), by simp⟩
  | ok response =>
    obtain ⟨received, hreceives, hlength, hpart, hok⟩ :=
      writeChunks_receives limit response.error 0 writer response.chunks (Nat.zero_le _)
    have hiff := writeChunks_ok_iff limit response.error 0 writer response.chunks (Nat.zero_le _)
    rw [Nat.zero_add] at hlength hiff
    dsimp only
    generalize writeChunks _ _ _ _ _ = chunks at hreceives hok hiff ⊢
    obtain ⟨error | _, writer'⟩ := chunks
    · refine ⟨received, hreceives, hlength, .inr ⟨response, rfl, hpart⟩, fun h => (by cases h), ?_⟩
      rintro _ ⟨-, _, ⟨⟩, herror, hchunks, rfl⟩ hlimit
      cases hiff.mpr ⟨herror, hchunks, hlimit⟩
    have hall := hreceives.trans (receives_flush attempt.shutdown)
    rw [append_nil] at hall
    obtain ⟨herror, hchunks, -⟩ := hiff.mp rfl
    cases hshutdown : attempt.shutdown <;> simp only [hshutdown, fetchRanges] at hall ⊢
    · refine ⟨received, hall, hlength, .inr ⟨response, rfl, hpart⟩,
        fun _ => ⟨rfl, trivial, response, rfl, herror, hchunks, (hok rfl).symm⟩, ?_⟩
      rintro _ ⟨-, _, ⟨⟩, -, -, rfl⟩ -
      have hwritten : writer'.written = writer.written ++ received := by
        simpa [BufWriter.flush, written] using hall.written
      simp [BufWriter.flush, hwritten, hok rfl, Response.body]
    · exact ⟨received, hall, hlength, .inr ⟨response, rfl, hpart⟩, fun h => (by cases h), by simp⟩

section Size

variable (hchecked : attempt.checkedSize sizeHint = .ok totalSize) (hposition : attempt.position = none)

include hchecked hposition

theorem getToWriter_of_complete (h : totalSize = writer.written.length) :
    getToWriter sizeHint attempt writer = (.ok (), ⟨writer.written, []⟩) := by
  simp only [getToWriter, hchecked, hposition, BufWriter.flush]
  exact if_pos h

theorem getToWriter_of_missing (h : writer.written.length < totalSize) :
    getToWriter sizeHint attempt writer = fetchRanges attempt (totalSize - writer.written.length)
      ⟨writer.written, []⟩ [(writer.written.length, totalSize - 1)] := by
  simp only [getToWriter, hchecked, hposition, BufWriter.flush]
  rw [if_neg h.ne', if_neg h.not_gt, RangeIter.take_eq h (Nat.sub_pos_of_lt h)]

end Size

theorem getToWriter_wrote (sizeHint : SizeHint) (attempt : Attempt) (writer : BufWriter) :
    ∃ received, attempt.Wrote sizeHint writer (getToWriter sizeHint attempt writer) received := by
  cases hchecked : attempt.checkedSize sizeHint with
  | error error =>
    rw [getToWriter, hchecked]
    exact ⟨[], .of_error receives_refl⟩
  | ok totalSize =>
    obtain ⟨hsize, hallows⟩ := Attempt.checkedSize_eq_ok.mp hchecked
    cases hposition : attempt.position with
    | some n =>
      rw [getToWriter, hchecked, hposition]
      exact ⟨[], .of_error (receives_pass n)⟩
    | none =>
      have hflush : writer.Receives ⟨writer.written, []⟩ [] := receives_flush none
      rcases lt_trichotomy totalSize writer.written.length with hlarger | hequal | hmissing
      · simp only [getToWriter, hchecked, hposition, BufWriter.flush]
        change ∃ received, attempt.Wrote sizeHint writer (if totalSize = writer.written.length then _ else
          if writer.written.length > totalSize then _ else _) received
        rw [if_neg hlarger.ne, if_pos hlarger]
        exact ⟨[], .of_error hflush⟩
      · rw [getToWriter_of_complete hchecked hposition hequal]
        exact ⟨[], hflush, .inl rfl, fun _ => ⟨rfl, totalSize, hallows, hsize, hposition, hequal.ge,
          .inl hequal.symm⟩⟩
      · rw [getToWriter_of_missing hchecked hposition hmissing]
        obtain ⟨received, hreceives, hlength, hanswered, hok, -⟩ := fetchRanges_range attempt
          (totalSize - writer.written.length) ⟨writer.written, []⟩ (writer.written.length, totalSize - 1)
        have hfits : writer.written.length + received.length ≤ totalSize := by omega
        refine ⟨received, hflush.trans hreceives, hanswered.imp_right fun ⟨response, hresponse, hpart⟩ =>
          ⟨totalSize, response, hsize, hresponse, hpart, hfits⟩, fun h => ?_⟩
        exact ⟨(hok h).1, totalSize, hallows, hsize, hposition, hfits, .inr (hok h).2⟩

/-- The attempts of a download that are made, with the writer that each of them starts with. -/
inductive Made (sizeHint : SizeHint) (attempts : Nat → Attempt) (file : Bytes) (opened : Bool) :
    Nat → BufWriter → Prop
  | first : opened = true → Made sizeHint attempts file opened (maxRetryAttempts - 1) (.new file)
  | again {n : Nat} {writer writer' : BufWriter} {error : DownloadError} :
      Made sizeHint attempts file opened (n + 1) writer →
      getToWriter sizeHint (attempts (n + 1)) writer = (.error error, writer') → error.shouldRetry = true →
      Made sizeHint attempts file opened n writer'

variable {opened : Bool} {n : Nat}

theorem Made.result (h : Made sizeHint attempts file opened n writer) :
    getToFile sizeHint opened attempts file =
      ((retry sizeHint attempts writer n).1, (retry sizeHint attempts writer n).2.file) := by
  induction h with
  | first hopened => rw [getToFile, if_pos hopened]
  | again _ hfailed hretry ih =>
    rw [ih, retry, hfailed]
    simp [hretry]

/-- A download ends with the last attempt that is made. -/
theorem exists_last (sizeHint : SizeHint) (attempts : Nat → Attempt) (file : Bytes) (hopened : opened = true) :
    ∃ n writer, Made sizeHint attempts file opened n writer ∧ getToFile sizeHint opened attempts file =
      ((getToWriter sizeHint (attempts n) writer).1, (getToWriter sizeHint (attempts n) writer).2.file) := by
  suffices hlast : ∀ n writer, Made sizeHint attempts file opened n writer → ∃ n' writer',
      Made sizeHint attempts file opened n' writer' ∧
        retry sizeHint attempts writer n = getToWriter sizeHint (attempts n') writer' by
    have hfirst : Made sizeHint attempts file opened _ _ := .first hopened
    obtain ⟨n, writer, hmade, hretry⟩ := hlast _ _ hfirst
    exact ⟨n, writer, hmade, by rw [hfirst.result, hretry]⟩
  intro n
  induction n with
  | zero => exact fun writer hmade => ⟨0, writer, hmade, rfl⟩
  | succ n ih =>
    intro writer hmade
    rcases hresult : getToWriter sizeHint (attempts (n + 1)) writer with ⟨error | _, writer'⟩
    · cases hretry : error.shouldRetry with
      | true =>
        rw [retry, hresult]
        simpa [hretry] using ih writer' (.again hmade hresult hretry)
      | false => exact ⟨n + 1, writer, hmade, by simp [retry, hresult, hretry]⟩
    · exact ⟨n + 1, writer, hmade, by simp [retry, hresult]⟩

theorem Made.appends (h : Made sizeHint attempts file opened n writer) : file <+: writer.file := by
  induction h with
  | first => exact prefix_rfl
  | @again n writer _ _ _ hfailed _ ih =>
    obtain ⟨received, hwrote⟩ := getToWriter_wrote sizeHint (attempts (n + 1)) writer
    rw [hfailed] at hwrote
    exact ih.trans hwrote.receives.file

/-- A download only appends, whatever the servers answer and however often it is tried. -/
theorem getToFile_appends (opened : Bool) : file <+: (getToFile sizeHint opened attempts file).2 := by
  cases opened with
  | false => exact prefix_rfl
  | true =>
    obtain ⟨n, writer, hmade, hlast⟩ := exists_last sizeHint attempts file rfl
    obtain ⟨received, hwrote⟩ := getToWriter_wrote sizeHint (attempts n) writer
    rw [hlast]
    exact hmade.appends.trans hwrote.receives.file

/-- A server that has a content. -/
def contentServer (content : Bytes) : Attempt where
  client := .ok ()
  head := .ok ⟨200, .ok content.length⟩
  position := none
  get range := .ok ⟨206, [⟨(content.drop range.1).take (range.2 + 1 - range.1), 0, false⟩], none⟩
  shutdown := none

theorem Attempt.Serves.part_of_content (hserves : attempt.Serves content) (h : writer.written <+: content) :
    (getToWriter sizeHint attempt writer).2.written <+: content := by
  obtain ⟨received, hreceives, hreceived, -⟩ := getToWriter_wrote sizeHint attempt writer
  obtain ⟨rest, rfl⟩ := h
  rw [hreceives.written, prefix_append_right_inj]
  obtain rfl | ⟨totalSize, response, -, hanswers, hpart, -⟩ := hreceived
  · exact nil_prefix
  · have hbody := hserves.body _ _ _ hanswers
    rw [drop_left] at hbody
    exact (hpart.trans hbody).trans ⟨_, take_append_drop ..⟩

theorem Made.part_of_content (h : Made sizeHint attempts file opened n writer)
    (hserves : ∀ n, (attempts n).Serves content) (hfile : file <+: content) : writer.written <+: content := by
  induction h with
  | first => simpa [BufWriter.new, written] using hfile
  | @again n writer _ _ _ hfailed _ ih =>
    have hwritten : (getToWriter sizeHint (attempts (n + 1)) writer).2.written <+: content :=
      (hserves _).part_of_content ih
    rwa [hfailed] at hwritten

theorem Attempt.Delivers.complete {start : Nat} {body : Bytes} (hserves : attempt.Serves content)
    (h : attempt.Delivers start totalSize body) : start + body.length = content.length := by
  obtain rfl := hserves.size _ h.size
  have hfits := h.fits
  obtain rfl | ⟨-, response, hanswers, herror, -, rfl⟩ := h.body
  · omega
  · rw [hserves.complete _ _ _ hanswers herror, length_take, length_drop]
    omega

/-- Where a server honours requests for ranges, whatever fails, the file stays a part of the content that
only grows at its end, and a download that succeeds leaves the content. A point of a download is the end
of one that fails there. -/
theorem getToFile_resumes (opened : Bool) (hserves : ∀ n, (attempts n).Serves content)
    (hfile : file <+: content) :
    file <+: (getToFile sizeHint opened attempts file).2 ∧
      (getToFile sizeHint opened attempts file).2 <+: content ∧
      ((getToFile sizeHint opened attempts file).1 = .ok () →
        (getToFile sizeHint opened attempts file).2 = content) := by
  cases opened with
  | false => exact ⟨prefix_rfl, hfile, fun h => by cases h⟩
  | true =>
    obtain ⟨n, writer, hmade, hlast⟩ := exists_last sizeHint attempts file rfl
    obtain ⟨received, hreceives, -, hdelivered⟩ := getToWriter_wrote sizeHint (attempts n) writer
    have hpart : (getToWriter sizeHint (attempts n) writer).2.written <+: content :=
      (hserves n).part_of_content (hmade.part_of_content hserves hfile)
    rw [hlast]
    refine ⟨hmade.appends.trans hreceives.file, (prefix_append ..).trans hpart, fun hok => ?_⟩
    obtain ⟨hbuffer, totalSize, -, hdelivers⟩ := hdelivered hok
    have hfile' := hreceives.written
    rw [written, hbuffer, append_nil] at hpart hfile'
    refine hpart.eq_of_length ?_
    rw [hfile', length_append]
    exact hdelivers.complete (hserves n)

theorem contentServer_serves (content : Bytes) : (contentServer content).Serves content where
  size totalSize h := (Except.ok.inj h).symm
  body start stop response h := by
    obtain rfl := Except.ok.inj h
    simp [Response.body]
  complete start stop response h _ := by
    obtain rfl := Except.ok.inj h
    simp [Response.body]

/-- The connection is reset after the first byte of an answer. -/
def resetServer (content : Bytes) : Attempt :=
  { contentServer content with
    get := fun range => .ok ⟨206, [⟨((content.drop range.1).take (range.2 + 1 - range.1)).take 1, 0, false⟩],
      some ⟨true⟩⟩ }

theorem resetServer_serves (content : Bytes) : (resetServer content).Serves content where
  size totalSize h := (Except.ok.inj h).symm
  body start stop response h := by
    obtain rfl := Except.ok.inj h
    simpa [Response.body] using ⟨_, take_append_drop ..⟩
  complete start stop response h herror := by
    obtain rfl := Except.ok.inj h
    cases herror

/-- Two attempts fail after a byte that stays in the buffer, and the third one gets the rest. -/
theorem resumes_after_resets :
    (getToFile (.exact 5) true (fun n => if 1 < n then resetServer [1, 2, 3, 4, 5] else
      contentServer [1, 2, 3, 4, 5]) [1]).2 = [1, 2, 3, 4, 5] := by
  refine (getToFile_resumes true (fun n => ?_) ⟨[2, 3, 4, 5], rfl⟩).2.2 rfl
  split_ifs
  · exact resetServer_serves _
  · exact contentServer_serves _

/-- What waits in the buffer is lost if all attempts fail. -/
example : (getToFile (.exact 5) true (fun _ => resetServer [1, 2, 3, 4, 5]) []).2 = [1, 2, 3] := rfl

end MullvadVpn.Update.Fetch
