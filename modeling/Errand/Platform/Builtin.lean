import Errand.Platform.Basic

/-!
# The built-in table

The platforms that are known without a table file.
-/

namespace Errand.Directory

/-- The built-in table. -/
def builtin : Directory :=
  [
    ⟨"taobao", "taobao.com", ["taobao", "淘宝"],
      "https://s.taobao.com/search?q=\x7bquery\x7d", .shop,
      ["#content_items_wrapper a", ".m-itemlist .items .item",
        "div[class*='Card--']"]⟩,
    ⟨"jd", "jd.com", ["jingdong", "京东"],
      "https://search.jd.com/Search?keyword=\x7bquery\x7d", .shop,
      ["#J_goodsList li.gl-item", ".gl-item"]⟩,
    ⟨"tmall", "tmall.com", ["tmall", "天猫"],
      "https://list.tmall.com/search_product.htm?q=\x7bquery\x7d",
      .shop, ["#J_ItemList .product", ".product-iWrap"]⟩,
    ⟨"amazon", "amazon.com", ["amazon", "亚马逊"],
      "https://www.amazon.com/s?k=\x7bquery\x7d", .shop,
      ["div[data-component-type='s-search-result']"]⟩,
    ⟨"bilibili", "bilibili.com", ["bilibili", "b站", "哔哩哔哩"],
      "https://search.bilibili.com/all?keyword=\x7bquery\x7d",
      .video, [".bili-video-card a[href*='/video/']",
        ".video-list .bili-video-card__wrap a",
        "a[href*='bilibili.com/video/']"]⟩,
    ⟨"youtube", "youtube.com", ["youtube", "油管"],
      "https://www.youtube.com/results?search_query=\x7bquery\x7d", .video,
      ["ytd-video-renderer a#video-title", "a#video-title",
        "a[href^='/watch']"]⟩,
    ⟨"douyin", "douyin.com", ["douyin", "抖音"],
      "https://www.douyin.com/search/\x7bquery\x7d", .video,
      ["ul[data-e2e='scroll-list'] li a", "a[href*='/video/']"]⟩,
    ⟨"xiaohongshu", "xiaohongshu.com", ["xiaohongshu", "小红书", "rednote"],
      "https://www.xiaohongshu.com/search_result?keyword=\x7bquery\x7d",
      .page, []⟩,
    ⟨"zhihu", "zhihu.com", ["zhihu", "知乎"],
      "https://www.zhihu.com/search?type=content&q=\x7bquery\x7d", .page, []⟩,
    ⟨"weibo", "weibo.com", ["weibo", "微博"],
      "https://s.weibo.com/weibo?q=\x7bquery\x7d", .page, []⟩,
    ⟨"baidu", "baidu.com", ["baidu", "百度"],
      "https://www.baidu.com/s?wd=\x7bquery\x7d", .page, []⟩,
    ⟨"github", "github.com", ["github"],
      "https://github.com/search?q=\x7bquery\x7d", .page, []⟩]

end Errand.Directory
