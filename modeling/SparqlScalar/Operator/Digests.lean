import SparqlScalar.Digest.Md5
import SparqlScalar.Digest.Sha1
import SparqlScalar.Digest.Sha2
import SparqlScalar.Term.Operand
import SparqlScalar.Text.Utf8

/-!
# Digests of strings

The digest of the bytes that encode a string, in lower-case hexadecimal digits and without a tag.
-/

namespace SparqlScalar

/-- Applies a digest to the bytes of a string. -/
def digestOf (digest : List UInt8 → List UInt8) (t : Term) : EvalResult Term := do
  let s ← t.string
  return Term.simple
    (String.ofList (Digest.hexText (digest (Utf8.bytes s.text.toList))))

def md5Of (t : Term) : EvalResult Term := digestOf Digest.Md5.digest t

def sha1Of (t : Term) : EvalResult Term := digestOf Digest.Sha1.digest t

def sha256Of (t : Term) : EvalResult Term := digestOf Digest.Sha2.digest256 t

def sha384Of (t : Term) : EvalResult Term := digestOf Digest.Sha2.digest384 t

def sha512Of (t : Term) : EvalResult Term := digestOf Digest.Sha2.digest512 t

end SparqlScalar
