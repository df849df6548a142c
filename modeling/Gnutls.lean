import Gnutls.Mpi
import Gnutls.Num
import Gnutls.Sbuf
import Gnutls.SbufSetup
import Gnutls.SbufTrust
import Gnutls.Pkcs11Privkey
import Gnutls.Anon.Session
import Gnutls.Anon.ServerKx
import Gnutls.Anon.ClientKx
import Gnutls.Anon.Exchange
import Gnutls.Anon.Handshake
import Gnutls.Proofs.Sbuf
import Gnutls.Proofs.SbufSetup
import Gnutls.Proofs.SbufTrust
import Gnutls.Proofs.SbufOwnership
import Gnutls.Proofs.Pkcs11Privkey
import Gnutls.Proofs.Anon.Decoding
import Gnutls.Proofs.Anon.RoundTrip
import Gnutls.Proofs.Anon.Agreement
import Gnutls.Proofs.Anon.Errors
import Gnutls.Proofs.Anon.Heap
import Gnutls.Proofs.Anon.Ownership
import Gnutls.Proofs.Anon.AuthInfo
import Gnutls.Proofs.Anon.Balance
