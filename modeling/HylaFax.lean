import HylaFax.Py.Text
import HylaFax.Py.Codec
import HylaFax.Py.Object
import HylaFax.Py.Triple
import HylaFax.PyFax.Types
import HylaFax.PyFax.Options
import HylaFax.PyFax.Api
import HylaFax.PyFax.Session
import HylaFax.PyFax.Protocol
import HylaFax.PyFax.Decoding
import HylaFax.RestApi.Handlers
import HylaFax.RestApi.Session
import HylaFax.RestApi.Uploads
import HylaFax.RestApi.JobSearch
import HylaFax.RestApi.Responses
import HylaFax.RestApi.Staging
