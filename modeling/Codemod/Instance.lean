/-!
# Which instances are meant

Powers, hashes of characters and equality of bytes are those of the core library, wherever other
libraries provide them too.
-/

attribute [instance (1100), default_instance (10001)] instPowNat
attribute [instance (1100)] instHashableChar ByteArray.instDecidableEq
