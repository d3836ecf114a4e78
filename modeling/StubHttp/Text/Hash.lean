/-!
# Hashes

The hash FNV-1a of a list of words: each word is added without carry and the sum multiplied by a prime.
-/
namespace StubHttp

def fnv1a (words : List UInt64) : UInt64 :=
  words.foldl (fun h w => (h ^^^ w) * 0x100000001b3) 0xcbf29ce484222325

end StubHttp
