import FednClient.Spec.Proto

/-! Model transfer: `get_model` folds the frames of a `Download` stream into a buffer,
and the generator inside `set_model` cuts a buffer into the frames it hands to
`Upload`. A generator is modelled by its resumptions: `resume` runs the loop body up
to its `yield`, and `none` stands for a generator that has returned. -/

namespace Fedn

/-- `io.BytesIO`: the bytes and the stream position. -/
structure BytesBuf where
  buf : List UInt8
  pos : Nat
  deriving DecidableEq, Repr

namespace BytesBuf

/-- `BytesIO()` -/
def empty : BytesBuf := ⟨[], 0⟩

/-- `read(n)`: at most `n` bytes from the position on; the position moves past them. -/
def read (b : BytesBuf) (n : Nat) : List UInt8 × BytesBuf :=
  ((b.buf.drop b.pos).take n, ⟨b.buf, b.pos + ((b.buf.drop b.pos).take n).length⟩)

/-- `write(d)`: overwrites from the position on, zero-filling a gap past the end. -/
def write (b : BytesBuf) (d : List UInt8) : BytesBuf :=
  ⟨b.buf.take b.pos ++ List.replicate (b.pos - b.buf.length) 0 ++ d ++
    b.buf.drop (b.pos + d.length), b.pos + d.length⟩

/-- `seek(0, 0)` -/
def seek0 (b : BytesBuf) : BytesBuf := ⟨b.buf, 0⟩

end BytesBuf

/-- The `for part in self.modelStub.Download(...)` loop of `get_model`, from the
buffer `data` written so far. -/
def getModelLoop (data : BytesBuf) : List ModelResponse → Option BytesBuf
  | [] => some data
  | part :: parts =>
    let data := if part.status = .IN_PROGRESS then data.write part.data else data
    if part.status = .OK then some data
    else if part.status = .FAILED then none
    else getModelLoop data parts

/-- `Client.get_model`, given the frames the `Download` stream yields. -/
def getModel (parts : List ModelResponse) : Option BytesBuf :=
  getModelLoop BytesBuf.empty parts

/-- One resumption of `upload_request_generator(mdl)`: read a chunk and yield its
frame. After yielding the frame of an empty read the loop breaks (`none`). -/
def uploadRequestGenerator.resume (id : String) (mdl : BytesBuf) :
    ModelRequest × Option BytesBuf :=
  match mdl.read CHUNK_SIZE with
  | (b, mdl) => if b ≠ [] then (⟨b, id, .IN_PROGRESS⟩, some mdl) else (⟨[], id, .OK⟩, none)

/-- `n` resumptions of the generator: the frames it yields and its state after them. -/
def uploadRequestGenerator (id : String) : Nat → Option BytesBuf → List ModelRequest × Option BytesBuf
  | 0, g => ([], g)
  | _ + 1, none => ([], none)
  | n + 1, some mdl =>
    match uploadRequestGenerator.resume id mdl with
    | (r, g) => match uploadRequestGenerator id n g with
      | (rs, g) => (r :: rs, g)

/-- `Client.set_model` on a `BytesBuf`: the frames `Upload` draws from the generator,
started after `bt.seek(0, 0)`. A read moves the position by at least one byte until
the empty read, so `buf.length + 1` resumptions drain it (`setModel_drains`). -/
def setModel (model : BytesBuf) (id : String) : List ModelRequest :=
  (uploadRequestGenerator id (model.buf.length + 1) (some model.seek0)).1

/-- An upload frame handed to the download side, status and data carried over. -/
def ModelRequest.toResponse (r : ModelRequest) : ModelResponse := ⟨r.data, r.status⟩

end Fedn
