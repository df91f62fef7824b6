import CompileWorker.Digest.Map
import CompileWorker.Digest.Sha256
import CompileWorker.Files

namespace CompileWorker

/-- The digests of all locations that are files. Directories are skipped. -/
def DigestMap.fingerprint (fs : Files) (locations : List String) : Except SystemError DigestMap :=
  locations.foldlM (fun m location ↦ do
    match ← fs.find location with
    | .directory => return m
    | .file content => return m.insert location (Sha256.hexDigest content)) .empty

end CompileWorker
