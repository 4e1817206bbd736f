/-!
# Tracking organisations

Organisations that operate well-known trackers, with the sites that belong to them.  The order in
which they are declared is the order in which they are listed when nothing else decides.
-/

namespace TrackerGuard

/-- An organisation that operates trackers. -/
inductive Entity where
  | google
  | facebook
  | twitter
  | amazon
  | outbrain
  | criteo
  | adobe
  | oracle
  | warnerMedia
  | ias
  | pinterest
  | verizonMedia
  deriving DecidableEq, Hashable, Repr

namespace Entity

/-- All organisations. -/
def all : List Entity :=
  [.google, .facebook, .twitter, .amazon, .outbrain, .criteo, .adobe, .oracle, .warnerMedia,
   .ias, .pinterest, .verizonMedia]

/-- The name of an organisation. -/
def name : Entity → String
  | .google => "Google"
  | .facebook => "Facebook"
  | .twitter => "Twitter"
  | .amazon => "Amazon"
  | .outbrain => "Outbrain"
  | .criteo => "Criteo"
  | .adobe => "Adobe"
  | .oracle => "Oracle"
  | .warnerMedia => "WarnerMedia"
  | .ias => "IAS"
  | .pinterest => "Pinterest"
  | .verizonMedia => "VerizonMedia"

/-- The sites of an organisation. -/
def domains : Entity → List String
  | .google => [
      "1emn.com", "2mdn.net", "admeld.com", "admob.com", "app-measurement.com", "apture.com",
      "asp-cc.com", "blogger.com", "cc-dt.com", "crashlytics.com", "dartsearch.net", "dmtry.com",
      "doubleclick.com", "doubleclick.net", "firebaseio.com", "gmodules.com",
      "google-analytics.com", "googleadservices.com", "googleadsserving.cn", "googlegroups.com",
      "googlesyndication.com", "googletagmanager.com", "googletagservices.com",
      "googleusercontent.com", "gstatic.com", "invitemedia.com", "page.link", "urchin.com",
      "waze.com", "youtube.com"]
  | .facebook => [
      "accountkit.com", "atdmt.com", "atlassbx.com", "atlassolutions.com", "facebook.com",
      "fbsbx.com", "liverail.com", "whatsapp.net"]
  | .twitter => [
      "ads-twitter.com", "mopub.com", "twitter.com", "twttr.com"]
  | .amazon => [
      "alexa.com", "alexametrics.com", "amazon-adsystem.com", "assoc-amazon.com",
      "assoc-amazon.jp", "graphiq.com", "media-imdb.com", "peer39.com", "peer39.net",
      "serving-sys.com", "sizmek.com", "twitch.tv", "wfm.com"]
  | .outbrain => [
      "ligatus.com", "outbrain.com", "veeseo.com", "zemanta.com"]
  | .criteo => [
      "criteo.com", "criteo.net", "emailretargeting.com", "hlserve.com", "manage.com"]
  | .adobe => [
      "2o7.net", "adobe.com", "adobetag.com", "auditude.com", "bizible.com",
      "businesscatalyst.com", "demdex.net", "everestads.net", "everestjs.net", "everesttech.net",
      "fyre.co", "hitbox.com", "livefyre.com", "marketo.com", "marketo.net", "mktoresp.com",
      "nedstat.net", "omniture.com", "omtrdc.net", "sitestat.com", "tubemogul.com"]
  | .oracle => [
      "sekindo.com", "addthis.com", "addthiscdn.com", "addthisedge.com", "atgsvcs.com",
      "bkrtx.com", "bluekai.com", "bm23.com", "compendium.com", "en25.com", "grapeshot.co.uk",
      "maxymiser.net", "moat.com", "moatads.com", "moatpixel.com", "nexac.com", "responsys.net"]
  | .warnerMedia => [
      "247realmedia.com", "adnxs.com", "adultswim.com", "cartoonnetwork.com", "cnn.com",
      "ncaa.com", "realmedia.com", "tbs.com", "tmz.com", "trutv.com", "turner.com",
      "ugdturner.com", "warnerbros.com", "yieldoptimizer.com"]
  | .ias => [
      "adsafeprotected.com", "iasds01.com"]
  | .pinterest => [
      "pinterest.com"]
  | .verizonMedia => [
      "adap.tv", "adsonar.com", "adtech.de", "adtechjp.com", "adtechus.com", "advertising.com",
      "aol.co.uk", "aol.com", "aol.fr", "aolp.jp", "atwola.com", "bluelithium.com",
      "brightroll.com", "btrll.com", "convertro.com", "engadget.com", "flurry.com",
      "hostingprod.com", "lexity.com", "mybloglog.com", "nexage.com", "overture.com",
      "pictela.net", "pulsemgr.com", "rmxads.com", "vidible.tv", "wretch.cc", "yahoo.com",
      "yahoo.net", "yahoodns.net", "yieldmanager.com", "yieldmanager.net", "yimg.com"]

/-- The organisation of a site. -/
def ofSite? (site : String) : Option Entity := all.find? fun e => e.domains.contains site

end Entity

end TrackerGuard
