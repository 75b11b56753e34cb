import TomtitAgent.Python.Effect
import TomtitAgent.Python.Dict
import TomtitAgent.Python.JsonLayout
import TomtitAgent.SessionPersistence.Serializer

/-!
# `session_persistence/file_store.py`: one file for each session

* `SessionDir`   what is found at the path of the session directory, and its entries;
* `FileEnv`      what the operating system does during one call: the operations that fail with an
                 `OSError`, the names `mkstemp` draws, the part of the data that reaches the file
                 before a write fails;
* `save`, `load`   the public protocol.

A symbolic link keeps only whether it is dangling.  File permissions are the mode of the directory.
-/

open Py

namespace Tomtit

/-- What stands under a name; `special` is a pipe, a socket or a device. -/
inductive DirEntry
  | file (content : Bytes)
  | symlink (dangling : Bool)
  | directory
  | special
deriving DecidableEq

inductive SessionDir
  | absent
  | directory (mode : Nat) (entries : Dict PyStr DirEntry)
  | symlink (dangling : Bool)
  | notDirectory

inductive FileOp
  | inspect | mkdir | chmod | mkstemp | fdopen | write | flush | fsync | close | replace | unlink
  | read | openDir | syncDir
deriving DecidableEq

structure FileEnv where
  fails : FileOp → Bool
  umask : Nat
  drawn : List PyStr
  reaches : Nat

/-- `FileSessionStore`; `path` is `str(self._dir)`. -/
structure FileSessionStore where
  texts : SessionTexts
  path : PyStr

abbrev Disk := Effect SessionDir

def osError : PyExc := ⟨["OSError"], []⟩

namespace FileSessionStore
open Effect

section
variable (store : FileSessionStore) (env : FileEnv)

def call (op : FileOp) : Disk Unit := if env.fails op then raise osError else pure ()

def insecure (mode : Nat) : Bool := mode &&& 0o077 ≠ 0

def octal (mode : Nat) : PyStr := py "0o" ++ (Nat.toDigits 8 mode).map CodePoint.ofChar

def dirSymlink : PyExc :=
  sessionPersistenceError (py "session directory must not be a symlink: " ++ store.path)
def dirNotDirectory : PyExc :=
  sessionPersistenceError (py "session directory path is not a directory: " ++ store.path)
def dirInsecure (mode : Nat) : PyExc :=
  sessionPersistenceError (py "session directory has insecure permissions " ++ octal mode ++ py ": " ++
    store.path)

/-- The name of `_path(session_id)` in the directory. -/
def fileName (sessionId : PyStr) : Except PyExc PyStr :=
  match canonicalUuid store.texts.json sessionId with
  | some canonical => .ok (canonical ++ py ".json")
  | none => .error uuidError

/-! ### saving -/

/-- `_ensure_dir`; `mkdir` applies the umask, `chmod` sets the exact mode. -/
def ensureDir : Disk Unit := do
  call env .inspect
  match ← get with
  | .symlink _ => raise store.dirSymlink
  | .notDirectory => raise store.dirNotDirectory
  | .directory mode _ => lift (raiseIf (insecure mode = true) (store.dirInsecure mode))
  | .absent => do
    call env .mkdir
    set (.directory (0o700 &&& (0o777 ^^^ (env.umask &&& 0o777))) Dict.empty)
    call env .chmod
    set (.directory 0o700 Dict.empty)

def change (f : Dict PyStr DirEntry → Dict PyStr DirEntry) : Disk Unit := fun
  | .directory mode entries => (.ok (), .directory mode (f entries))
  | d => (.error osError, d)

def entryOf : SessionDir → PyStr → Option DirEntry
  | .directory _ entries, name => entries.get? name
  | _, _ => none

def tempName (canonical drawn : PyStr) : PyStr := py "." ++ canonical ++ py "." ++ drawn ++ py ".tmp"

def freeName (canonical : PyStr) (d : SessionDir) : Option PyStr :=
  (env.drawn.map (tempName canonical)).find? fun name => (entryOf d name).isNone

/-- `_create_temp` -/
def createTemp (canonical : PyStr) : Disk PyStr := do
  call env .mkstemp
  match freeName env canonical (← get) with
  | none => raise osError
  | some name => do
    change fun entries => entries.set name (.file ByteArray.empty)
    return name

/-- The statements inside `with closing(file_obj)`. -/
def writeData (temp : PyStr) (data : Bytes) : Disk Unit := do
  change fun entries => entries.set temp (.file ⟨data.data.take env.reaches⟩)
  call env .write
  call env .flush
  change fun entries => entries.set temp (.file data)
  call env .fsync

/-- `_write_and_fsync_temp` -/
def writeAndFsyncTemp (temp : PyStr) (data : Bytes) : Disk Unit := do
  call env .fdopen
  finally_ (writeData env temp data) (call env .close)

/-- `os.replace(temp, target)` -/
def replace (temp target : PyStr) : Disk Unit := do
  call env .replace
  match entryOf (← get) target, entryOf (← get) temp with
  | some .directory, _ => raise osError
  | _, none => raise osError
  | _, some e => change fun entries => (entries.erase temp).set target e

/-- `_cleanup_temp_best_effort` -/
def cleanupTemp (temp : PyStr) : Disk Unit :=
  swallow ["OSError"] do
    call env .unlink
    if (entryOf (← get) temp).isSome then change fun entries => entries.erase temp

/-- `_fsync_parent_best_effort` -/
def fsyncParent : Disk Unit :=
  swallow ["OSError", "NotImplementedError"] do
    call env .openDir
    call env .syncDir

/-- `except OSError as exc: raise SessionPersistenceError(...)` -/
def persistFailure (sessionId : PyStr) (e : PyExc) : PyExc :=
  if e.isA "OSError" then sessionPersistenceError (py "Unable to persist session " ++ sessionId) else e

def payload (session : SessionState) : Except PyExc Bytes := do
  let document ← SessionSerializer.toDict store.texts session
  let text ← dumpsIn store.texts.json .spaced document
  encodeUtf8 text

/-- The `try` block, after the directory. -/
def commit (sessionId target : PyStr) (data : Bytes) : Disk Unit := do
  let temp ← createTemp env sessionId
  finally_ (do
    writeAndFsyncTemp env temp data
    replace env temp target) (cleanupTemp env temp)

def save (session : SessionState) : Disk Unit := do
  let data ← lift (store.payload session)
  let target ← lift (store.fileName session.sessionId)
  reraise (persistFailure session.sessionId) do
    store.ensureDir env
    commit env session.sessionId target data
  fsyncParent env

/-! ### loading -/

/-- `except OSError as exc: raise SessionPersistenceError(...)` of `load` -/
def readFailure (canonical : PyStr) : PyExc :=
  sessionPersistenceError (py "Unable to read session " ++ canonical)

/-- The bytes of the file, `none` when there is no session. -/
def readSession (canonical name : PyStr) (d : SessionDir) : Except PyExc (Option Bytes) :=
  if env.fails .inspect then .error (readFailure canonical)
  else match d with
    | .absent => .ok none
    | .symlink true => .ok none
    | .symlink false => .error store.dirSymlink
    | .notDirectory => .error store.dirNotDirectory
    | .directory mode entries =>
      if insecure mode then .error (store.dirInsecure mode)
      else match entries.get? name with
        | none => .ok none
        | some (.symlink true) => .ok none
        | some (.symlink false) => .error (sessionPersistenceError
            (py "session file must not be a symlink: " ++ store.path ++ py "/" ++ name))
        | some .directory | some .special => .error (sessionPersistenceError
            (py "session file is not a regular file: " ++ store.path ++ py "/" ++ name))
        | some (.file content) =>
          if env.fails .read then .error (readFailure canonical) else .ok (some content)

/-- `except json.JSONDecodeError as exc: raise SessionDataCorruptionError(...)` -/
def invalidJson (canonical : PyStr) (e : PyExc) : PyExc :=
  if e.isA "JSONDecodeError" then
    sessionDataCorruptionError (py "Invalid JSON in session " ++ canonical)
  else e

/-- The parsing outside the first `try` block. -/
def parseSession (canonical : PyStr) (raw : Bytes) : Except PyExc SessionState := do
  let data ← (loadsBytes store.texts.json raw).mapError (invalidJson canonical)
  SessionSerializer.fromDict store.texts canonical data

def load (sessionId : PyStr) (d : SessionDir) : Except PyExc (Option SessionState) :=
  match canonicalUuid store.texts.json sessionId with
  | none => .error uuidError
  | some canonical => do
    match ← store.readSession env canonical (canonical ++ py ".json") d with
    | none => return none
    | some raw => do
      let session ← store.parseSession canonical raw
      return some session

end

end FileSessionStore

end Tomtit
