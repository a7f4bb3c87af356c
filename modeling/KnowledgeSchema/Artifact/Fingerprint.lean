import KnowledgeSchema.Artifact.Basic
import KnowledgeSchema.Digest.Sha256

/-!
# Fingerprints

The digest of everything in an artifact but the fingerprint itself and the diagnostics.
-/

namespace KnowledgeSchema.Artifact

/-- What a fingerprint covers: all fields before the fingerprint itself. -/
def content (artifact : Artifact) : Json :=
  .obj ((fields.encode artifact).take 7)

def contentBytes (artifact : Artifact) : List UInt8 :=
  artifact.content.text.toUTF8.toList

def computeFingerprint (artifact : Artifact) : String :=
  Sha256.hex artifact.contentBytes

/-- Whether the fingerprint belongs to the content. -/
def isVerified (artifact : Artifact) : Bool :=
  artifact.computeFingerprint == artifact.fingerprint

/-- The artifact under the fingerprint of its content. -/
def fingerprinted (artifact : Artifact) : Artifact :=
  { artifact with fingerprint := artifact.computeFingerprint }

end KnowledgeSchema.Artifact
